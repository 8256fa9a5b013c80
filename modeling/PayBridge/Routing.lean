import Mathlib.Data.List.Perm.Basic
import PayBridge.Arrange.Stable
import PayBridge.Schema

namespace PayBridge
open Arrange

inductive RoutingStrategy
  | currencyOptimized
  | feeOptimized
  | lowestLatency
  deriving DecidableEq

structure RoutingContext where
  amount : ℚ
  currency : String
  preferredGateway : Option GatewayProvider
  strategy : Option RoutingStrategy

structure RoutingResult where
  candidates : List GatewayProvider
  primary : GatewayProvider
  strategyUsed : RoutingStrategy
  deriving DecidableEq

def resolveCurrencyOptimized (currency : String) : List GatewayProvider :=
  match currency with
  | "EGP" => [.paymob, .fawry, .stripe]
  | "USD" | "EUR" | "GBP" => [.stripe, .paymob]
  | "SAR" | "AED" => [.paymob, .stripe, .fawry]
  | _ => [.stripe, .paymob, .fawry]

def resolveFeeOptimized (amount : ℚ) (currency : String) : List GatewayProvider :=
  if currency = "EGP" then
    if amount < 100 then [.fawry, .paymob, .stripe] else [.paymob, .fawry, .stripe]
  else [.stripe, .paymob]

def resolveLatencyOptimized (currency : String) : List GatewayProvider :=
  if currency ∈ ["EGP", "SAR", "AED", "KWD"] then [.paymob, .fawry, .stripe] else [.stripe, .paymob]

def buildPreferredChain (preferred : GatewayProvider) (currency : String) : List GatewayProvider :=
  preferred :: (resolveCurrencyOptimized currency).filter (· ≠ preferred)

/-- Moves the gateways with an open circuit to the end, unless all are open. -/
def applyHealthPrioritization (isAvailable : GatewayProvider → Bool) (candidates : List GatewayProvider) :
    List GatewayProvider :=
  let healthy := candidates.filter isAvailable
  let tripped := candidates.filter fun gateway => !isAvailable gateway
  if healthy = [] then candidates else healthy ++ tripped

/-- The candidates before the state of the circuits is looked at. -/
def baseCandidates (P : Platform) (context : RoutingContext) : List GatewayProvider :=
  let currency := P.toUpperCase context.currency
  match context.preferredGateway with
  | some preferred => buildPreferredChain preferred currency
  | none =>
    match context.strategy.getD .currencyOptimized with
    | .feeOptimized => resolveFeeOptimized context.amount currency
    | .lowestLatency => resolveLatencyOptimized currency
    | .currencyOptimized => resolveCurrencyOptimized currency

def resolveRoute (P : Platform) (isAvailable : GatewayProvider → Bool) (context : RoutingContext) : RoutingResult :=
  let prioritizedCandidates := applyHealthPrioritization isAvailable (baseCandidates P context)
  ⟨prioritizedCandidates, prioritizedCandidates.head?.getD .stripe, context.strategy.getD .currencyOptimized⟩

/-- What holds of the chains of all builders, holds of the base chain. -/
theorem baseCandidates_all {Q : List GatewayProvider → Prop} (currency : ∀ text, Q (resolveCurrencyOptimized text))
    (fee : ∀ amount text, Q (resolveFeeOptimized amount text)) (latency : ∀ text, Q (resolveLatencyOptimized text))
    (preferred : ∀ gateway text, Q (buildPreferredChain gateway text)) (P : Platform) (context : RoutingContext) :
    Q (baseCandidates P context) := by
  unfold baseCandidates
  split
  · exact preferred _ _
  · split
    · exact fee _ _
    · exact latency _
    · exact currency _

theorem resolveCurrencyOptimized_nodup (currency : String) :
    resolveCurrencyOptimized currency ≠ [] ∧ (resolveCurrencyOptimized currency).Nodup := by
  unfold resolveCurrencyOptimized
  split <;> decide

/-- A base chain has a gateway, and no gateway twice. -/
theorem baseCandidates_nodup (P : Platform) (context : RoutingContext) :
    baseCandidates P context ≠ [] ∧ (baseCandidates P context).Nodup := by
  refine baseCandidates_all (Q := fun chain => chain ≠ [] ∧ chain.Nodup) resolveCurrencyOptimized_nodup ?_ ?_ ?_ P context
  · intro amount text
    unfold resolveFeeOptimized
    split
    · split <;> decide
    · decide
  · intro text
    unfold resolveLatencyOptimized
    split <;> decide
  · intro gateway text
    have fallbacks := (resolveCurrencyOptimized_nodup text).2.filter (· ≠ gateway)
    refine ⟨List.cons_ne_nil _ _, List.nodup_cons.mpr ⟨fun member => ?_, fallbacks⟩⟩
    simpa using (List.mem_filter.mp member).2

theorem baseCandidates_ne_nil (P : Platform) (context : RoutingContext) : baseCandidates P context ≠ [] :=
  (baseCandidates_nodup P context).1

/-- The reordering moves the available ones to the front and keeps the order on
both sides, also when none is available. -/
theorem applyHealthPrioritization_stable (isAvailable : GatewayProvider → Bool) (candidates : List GatewayProvider) :
    StablePartition isAvailable candidates (applyHealthPrioritization isAvailable candidates) := by
  simp only [applyHealthPrioritization]
  split
  · next none => exact StablePartition.of_none none
  · exact StablePartition.append isAvailable candidates

/-- The state of the circuits reorders the candidates and drops none. -/
theorem resolveRoute_perm (P : Platform) (isAvailable : GatewayProvider → Bool) (context : RoutingContext) :
    (resolveRoute P isAvailable context).candidates.Perm (baseCandidates P context) :=
  (applyHealthPrioritization_stable isAvailable (baseCandidates P context)).perm

/-- There is always a candidate, and the primary one is the first. -/
theorem resolveRoute_primary (P : Platform) (isAvailable : GatewayProvider → Bool) (context : RoutingContext) :
    ∃ rest, (resolveRoute P isAvailable context).candidates = (resolveRoute P isAvailable context).primary :: rest := by
  have some := baseCandidates_ne_nil P context
  have perm := resolveRoute_perm P isAvailable context
  cases candidates : (resolveRoute P isAvailable context).candidates with
  | nil =>
    rw [candidates] at perm
    exact absurd perm.nil_eq.symm some
  | cons first rest =>
    refine ⟨rest, ?_⟩
    have primary : (resolveRoute P isAvailable context).primary =
        ((resolveRoute P isAvailable context).candidates.head?.getD .stripe) := rfl
    rw [primary, candidates]
    rfl

/-- A route is the base chain with the available gateways first, and its primary
gateway is the first one: an available one if there is any, and the preferred
one if that is available. -/
theorem resolveRoute_stable (P : Platform) (isAvailable : GatewayProvider → Bool) (context : RoutingContext) :
    (∀ candidates, StablePartition isAvailable candidates (applyHealthPrioritization isAvailable candidates)) ∧
      StablePartition isAvailable (baseCandidates P context) (resolveRoute P isAvailable context).candidates ∧
      (resolveRoute P isAvailable context).candidates ≠ [] ∧ (resolveRoute P isAvailable context).candidates.Nodup ∧
      (resolveRoute P isAvailable context).candidates.head? = some (resolveRoute P isAvailable context).primary ∧
      ((∃ gateway ∈ baseCandidates P context, isAvailable gateway) →
        isAvailable (resolveRoute P isAvailable context).primary) ∧
      ∀ preferred, context.preferredGateway = some preferred → isAvailable preferred →
        (resolveRoute P isAvailable context).primary = preferred := by
  have partition : StablePartition isAvailable (baseCandidates P context) (resolveRoute P isAvailable context).candidates :=
    applyHealthPrioritization_stable isAvailable (baseCandidates P context)
  obtain ⟨rest, primary⟩ := resolveRoute_primary P isAvailable context
  have headed := primary ▸ partition
  have distinct := partition.nodup (baseCandidates_nodup P context).2
  refine ⟨applyHealthPrioritization_stable isAvailable, partition, ?_, distinct, ?_, ?_, ?_⟩
  · rw [primary]
    exact List.cons_ne_nil _ _
  · rw [primary]
    rfl
  · rintro ⟨gateway, member, available⟩
    exact headed.head member available
  · intro preferred given available
    have chain : baseCandidates P context =
        preferred :: (resolveCurrencyOptimized (P.toUpperCase context.currency)).filter (· ≠ preferred) := by
      simp only [baseCandidates, given, buildPreferredChain]
    exact (chain ▸ headed).head_kept available

end PayBridge
