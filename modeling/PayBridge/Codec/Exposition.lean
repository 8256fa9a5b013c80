import Mathlib.Data.List.TakeWhile
import Mathlib.Tactic.Common

namespace Codec

/-- A sample of a scrape, in the Prometheus text format 0.0.4. -/
structure Sample (V : Type) where
  name : List Char
  labels : List (List Char × List Char)
  value : V
  deriving DecidableEq

namespace Exposition

def isBlank (c : Char) : Bool := c = ' ' || c = '\t'

def skipBlanks (s : List Char) : List Char := s.dropWhile isBlank

/-- The next word of a line, and what follows it. -/
def word (s : List Char) : List Char × List Char :=
  ((skipBlanks s).takeWhile fun c => !isBlank c, (skipBlanks s).dropWhile fun c => !isBlank c)

/-- Metric names may have colons, label names may not. -/
def isNameStart (colon : Bool) (c : Char) : Bool := c.isAlpha || c = '_' || colon && c = ':'

def isNamePart (colon : Bool) (c : Char) : Bool := isNameStart colon c || c.isDigit

def isName (colon : Bool) : List Char → Bool
  | [] => false
  | c :: rest => isNameStart colon c && rest.all (isNamePart colon)

def readName (colon : Bool) (s : List Char) : Option (List Char × List Char) :=
  if s.head?.any (isNameStart colon) then some (s.takeWhile (isNamePart colon), s.dropWhile (isNamePart colon)) else none

def expect (c : Char) : List Char → Option (List Char)
  | [] => none
  | d :: rest => if d = c then some rest else none

/-- What may follow a backslash in a label value. -/
def unescape (c : Char) : Option Char :=
  if c = '\\' ∨ c = '"' then some c else if c = 'n' then some '\n' else none

/-- A label value up to its closing quote. -/
def readQuoted (escaped : Bool) : List Char → Option (List Char × List Char)
  | [] => none
  | c :: rest =>
    if escaped then (unescape c).bind fun c => (readQuoted false rest).map fun (value, left) => (c :: value, left)
    else if c = '"' then some ([], rest)
    else if c = '\n' then none
    else if c = '\\' then readQuoted true rest
    else (readQuoted false rest).map fun (value, left) => (c :: value, left)

def readLabel (s : List Char) : Option ((List Char × List Char) × List Char) := do
  let (name, rest) ← readName false s
  let rest ← expect '=' (skipBlanks rest)
  let rest ← expect '"' (skipBlanks rest)
  let (value, rest) ← readQuoted false rest
  return ((name, value), rest)

/-- Labels up to the closing brace; a comma may stand before it. -/
def readLabels : Nat → List Char → Option (List (List Char × List Char) × List Char)
  | 0, _ => none
  | fuel + 1, s =>
    match skipBlanks s with
    | '}' :: rest => some ([], rest)
    | start => (readLabel start).bind fun (label, rest) =>
      match skipBlanks rest with
      | ',' :: rest => (readLabels fuel rest).map fun (more, rest) => (label :: more, rest)
      | '}' :: rest => some ([label], rest)
      | _ => none

/-- The end of a sample: nothing, or a timestamp. -/
def isEnd (s : List Char) : Bool :=
  let (token, rest) := word s
  let digits := match token with
    | '-' :: digits => digits
    | digits => digits
  (token.isEmpty || !digits.isEmpty && digits.all Char.isDigit) && (skipBlanks rest).isEmpty

variable {V : Type}

/-- A sample behind its labels. -/
def readTail (readValue : List Char → Option V) (name : List Char) (labels : List (List Char × List Char)) (s : List Char) :
    Option (Sample V) :=
  (readValue (word s).1).bind fun value => if isEnd (word s).2 then some ⟨name, labels, value⟩ else none

def readSample (readValue : List Char → Option V) (s : List Char) : Option (Sample V) :=
  (readName true s).bind fun (name, rest) =>
    match skipBlanks rest with
    | '{' :: rest => (readLabels (rest.length + 1) rest).bind fun (labels, rest) => readTail readValue name labels rest
    | rest => readTail readValue name [] rest

/-- The text of a `HELP` line may escape a backslash and a line feed. -/
def isHelp (escaped : Bool) : List Char → Bool
  | [] => !escaped
  | c :: rest => if escaped then (c = '\\' || c = 'n') && isHelp false rest else isHelp (c = '\\') rest

def metricTypes : List String := ["counter", "gauge", "histogram", "summary", "untyped"]

/-- What may follow a `#`. -/
def isComment (s : List Char) : Bool :=
  let (keyword, rest) := word s
  if keyword = "HELP".toList then
    let (name, text) := word rest
    isName true name && isHelp false text
  else if keyword = "TYPE".toList then
    let (name, rest) := word rest
    let (kind, rest) := word rest
    isName true name && metricTypes.contains (String.ofList kind) && (skipBlanks rest).isEmpty
  else true

def readLine (readValue : List Char → Option V) (line : List Char) : Option (List (Sample V)) :=
  match skipBlanks line with
  | [] => some []
  | '#' :: comment => if isComment comment then some [] else none
  | start => (readSample readValue start).map fun sample => [sample]

def readLines (readValue : List Char → Option V) : List (List Char) → Option (List (Sample V))
  | [] => some []
  | line :: lines => (readLine readValue line).bind fun now => (readLines readValue lines).map fun later => now ++ later

/-- The samples of a scrape, line by line; all lines have to be ended. -/
def parse (readValue : List Char → Option V) (text : List Char) : Option (List (Sample V)) :=
  if text.getLast?.all (· = '\n') then readLines readValue (text.splitOn '\n') else none

/-- Text that stands for itself in a label value. -/
def Plain (s : List Char) : Prop := ∀ c ∈ s, c ≠ '"' ∧ c ≠ '\\' ∧ c ≠ '\n'

theorem Plain.unquoted {s : List Char} (plain : Plain s) : '"' ∉ s := fun quote => (plain _ quote).1 rfl

theorem Plain.single {s : List Char} (plain : Plain s) : '\n' ∉ s := fun feed => (plain _ feed).2.2 rfl

theorem readQuoted_plain {s : List Char} (plain : Plain s) (rest : List Char) :
    readQuoted false (s ++ '"' :: rest) = some (s, rest) := by
  induction s with
  | nil => simp [readQuoted]
  | cons c s ih =>
    obtain ⟨⟨quote, backslash, feed⟩, others⟩ := List.forall_mem_cons.mp plain
    rw [List.cons_append, readQuoted, if_neg Bool.false_ne_true, if_neg quote, if_neg feed, if_neg backslash, ih others,
      Option.map_some]

/-- A label value is no longer than the text that it is read from, and as long
only if that text is plain and the value itself. -/
theorem readQuoted_taken {escaped : Bool} {s value rest : List Char} (read : readQuoted escaped s = some (value, rest)) :
    ∃ taken, s = taken ++ '"' :: rest ∧ value.length ≤ taken.length ∧
      (escaped = false → value.length = taken.length → value = taken ∧ Plain taken) := by
  induction s generalizing escaped value with
  | nil => cases read
  | cons c s ih =>
    rw [readQuoted] at read
    by_cases escape : escaped = true
    · rw [if_pos escape] at read
      obtain ⟨d, _, later⟩ := Option.bind_eq_some_iff.mp read
      obtain ⟨⟨more, left⟩, next, same⟩ := Option.map_eq_some_iff.mp later
      cases same
      obtain ⟨taken, rfl, shorter, _⟩ := ih next
      exact ⟨c :: taken, rfl, Nat.succ_le_succ shorter, fun other => absurd (other.symm.trans escape) Bool.false_ne_true⟩
    · rw [if_neg escape] at read
      split at read
      · next quote =>
        cases read
        exact ⟨[], by rw [quote]; rfl, le_rfl, fun _ _ => ⟨rfl, fun _ member => absurd member List.not_mem_nil⟩⟩
      · next quote =>
        split at read
        · cases read
        · next feed =>
          split at read
          · obtain ⟨taken, rfl, shorter, _⟩ := ih read
            refine ⟨c :: taken, rfl, Nat.le_succ_of_le shorter, fun _ same => ?_⟩
            rw [List.length_cons] at same
            omega
          · next backslash =>
            obtain ⟨⟨more, left⟩, next, same⟩ := Option.map_eq_some_iff.mp read
            cases same
            obtain ⟨taken, rfl, shorter, exact_text⟩ := ih next
            refine ⟨c :: taken, rfl, Nat.succ_le_succ shorter, fun _ same => ?_⟩
            obtain ⟨rfl, plain⟩ := exact_text rfl (Nat.succ.inj same)
            exact ⟨rfl, List.forall_mem_cons.mpr ⟨⟨quote, backslash, feed⟩, plain⟩⟩

/-- A text up to the last quote of a line is read in full only if it is plain,
also where the line is cut off. -/
theorem plain_of_readQuoted {s tail line after value rest : List Char} (last : '"' ∉ tail)
    (cut : s ++ '"' :: tail = line ++ after) (read : readQuoted false line = some (value, rest))
    (long : s.length ≤ value.length) : Plain s := by
  obtain ⟨taken, rfl, shorter, exact_text⟩ := readQuoted_taken read
  have whole : s = taken := by
    rw [List.append_assoc, List.cons_append] at cut
    rcases List.append_eq_append_iff.mp cut with ⟨more, longer, split⟩ | ⟨more, longer, _⟩
    · cases more with
      | nil => rw [longer, List.append_nil]
      | cons c more =>
        rw [List.cons_append, List.cons.injEq] at split
        exact absurd (split.2 ▸ List.mem_append_right more List.mem_cons_self) last
    · have lengths := congrArg List.length longer
      rw [List.length_append] at lengths
      have none : more = [] := List.length_eq_zero_iff.mp (by omega)
      rw [longer, none, List.append_nil]
  exact whole ▸ (exact_text rfl (le_antisymm shorter (whole ▸ long))).2

/-- A text without quotes and what stands behind the quote after it, can be told from both. -/
theorem quoted_inj {left right more rest : List Char} (first : '"' ∉ left) (second : '"' ∉ right)
    (same : left ++ '"' :: more = right ++ '"' :: rest) : left = right ∧ more = rest := by
  induction left generalizing right with
  | nil =>
    cases right with
    | nil => exact ⟨rfl, (List.cons.inj same).2⟩
    | cons c right => exact absurd ((List.cons.inj same).1 ▸ List.mem_cons_self) second
  | cons c left ih =>
    cases right with
    | nil => exact absurd ((List.cons.inj same).1 ▸ List.mem_cons_self) first
    | cons d right =>
      rw [List.cons_append, List.cons_append, List.cons.injEq] at same
      rw [List.mem_cons, not_or] at first second
      obtain ⟨lefts, mores⟩ := ih first.2 second.2 same.2
      exact ⟨by rw [same.1, lefts], mores⟩

theorem blank_cases {c : Char} (blank : isBlank c = true) : c = ' ' ∨ c = '\t' := by
  simpa [isBlank] using blank

theorem skipBlanks_cons {c : Char} (visible : isBlank c = false) (s : List Char) : skipBlanks (c :: s) = c :: s :=
  List.dropWhile_cons_of_neg (by rw [visible]; exact Bool.false_ne_true)

/-- A name is read up to the first character that is none of a name. -/
theorem readName_append {colon : Bool} {name : List Char} (named : isName colon name = true) {c : Char}
    (ends : isNamePart colon c = false) (rest : List Char) : readName colon (name ++ c :: rest) = some (name, c :: rest) := by
  cases name with
  | nil => cases named
  | cons first others =>
    rw [isName, Bool.and_eq_true] at named
    have parts : ∀ d ∈ first :: others, isNamePart colon d = true := by
      refine List.forall_mem_cons.mpr ⟨?_, List.all_eq_true.mp named.2⟩
      rw [isNamePart, named.1, Bool.true_or]
    have stops : ¬ isNamePart colon c = true := by rw [ends]; exact Bool.false_ne_true
    have first : ((first :: others) ++ c :: rest).head?.any (isNameStart colon) = true := named.1
    rw [readName, if_pos first, List.takeWhile_append_of_pos parts, List.dropWhile_append_of_pos parts,
      List.takeWhile_cons_of_neg stops, List.dropWhile_cons_of_neg stops, List.append_nil]

theorem nameStart_visible {colon : Bool} {c : Char} (starts : isNameStart colon c = true) :
    isBlank c = false ∧ c ≠ '}' ∧ c ≠ '#' := by
  refine ⟨Bool.eq_false_iff.mpr fun blank => ?_, ?_, ?_⟩
  · rcases blank_cases blank with rfl | rfl <;> cases colon <;> cases starts
  · rintro rfl
    cases colon <;> cases starts
  · rintro rfl
    cases colon <;> cases starts

/-- A text that starts with a name has no blanks before it. -/
theorem skipBlanks_name {colon : Bool} {name : List Char} (named : isName colon name = true) (s : List Char) :
    skipBlanks (name ++ s) = name ++ s ∧ ∃ c rest, name ++ s = c :: rest ∧ c ≠ '}' ∧ c ≠ '#' := by
  cases name with
  | nil => cases named
  | cons c others =>
    rw [isName, Bool.and_eq_true] at named
    obtain ⟨visible, brace, comment⟩ := nameStart_visible named.1
    exact ⟨skipBlanks_cons visible _, c, others ++ s, rfl, brace, comment⟩

/-- A label up to its value. -/
def labelOpen (name : List Char) : List Char := name ++ ['=', '"']

theorem readLabel_open {name : List Char} (named : isName false name = true) (s : List Char) :
    readLabel (labelOpen name ++ s) = (readQuoted false s).map fun (value, rest) => ((name, value), rest) := by
  have read := readName_append named (c := '=') rfl ('"' :: s)
  have equals : expect '=' (skipBlanks ('=' :: '"' :: s)) = some ('"' :: s) := rfl
  have quote : expect '"' (skipBlanks ('"' :: s)) = some s := rfl
  rw [labelOpen, List.append_assoc]
  simp only [readLabel, List.cons_append, List.nil_append, read, equals, quote, Option.bind_eq_bind, Option.bind_some]
  cases readQuoted false s <;> rfl

theorem readLabels_open {name : List Char} (named : isName false name = true) (fuel : Nat) (s : List Char) :
    readLabels (fuel + 1) (labelOpen name ++ s) = (readQuoted false s).bind fun (value, rest) =>
      match skipBlanks rest with
      | ',' :: rest => (readLabels fuel rest).map fun (more, rest) => ((name, value) :: more, rest)
      | '}' :: rest => some ([(name, value)], rest)
      | _ => none := by
  have label := readLabel_open named s
  rw [labelOpen, List.append_assoc] at label ⊢
  obtain ⟨kept, c, rest, first, brace, _⟩ := skipBlanks_name named (['=', '"'] ++ s)
  rw [readLabels, kept]
  rw [first] at label ⊢
  split
  · next same => exact absurd (List.cons.inj same).1 brace
  · rw [label]
    cases readQuoted false s <;> rfl

/-- A label with a plain value. -/
structure PlainLabel (label : List Char × List Char) : Prop where
  named : isName false label.1 = true
  plain : Plain label.2

/-- Labels, each with a comma behind it. -/
def labelsOpen (labels : List (List Char × List Char)) : List Char :=
  labels.flatMap fun label => labelOpen label.1 ++ label.2 ++ ['"', ',']

theorem labelsOpen_length (labels : List (List Char × List Char)) : labels.length ≤ (labelsOpen labels).length := by
  induction labels with
  | nil => exact le_rfl
  | cons label labels ih =>
    simp only [labelsOpen, List.flatMap_cons, List.length_append, List.length_cons] at ih ⊢
    omega

theorem readLabels_behind {labels : List (List Char × List Char)} (plain : ∀ label ∈ labels, PlainLabel label) (fuel : Nat)
    (s : List Char) : readLabels (fuel + labels.length) (labelsOpen labels ++ s) =
      (readLabels fuel s).map fun (more, rest) => (labels ++ more, rest) := by
  induction labels with
  | nil => cases held : readLabels fuel s <;> simp [labelsOpen, held]
  | cons label labels ih =>
    obtain ⟨first, others⟩ := List.forall_mem_cons.mp plain
    have text : labelsOpen (label :: labels) ++ s = labelOpen label.1 ++ (label.2 ++ '"' :: ',' :: (labelsOpen labels ++ s)) := by
      simp [labelsOpen]
    have comma : skipBlanks (',' :: (labelsOpen labels ++ s)) = ',' :: (labelsOpen labels ++ s) := rfl
    rw [text, List.length_cons, ← Nat.add_assoc, readLabels_open first.named, readQuoted_plain first.plain, Option.bind_some]
    simp only [comma, ih others, Option.map_map]
    rfl

/-- A sample up to the value of its last label. -/
def sampleOpen (name : List Char) (labels : List (List Char × List Char)) (last : List Char) : List Char :=
  name ++ '{' :: (labelsOpen labels ++ labelOpen last)

def sampleText (name : List Char) (labels : List (List Char × List Char)) (last : List Char × List Char) (value : List Char) :
    List Char :=
  sampleOpen name labels last.1 ++ (last.2 ++ '"' :: '}' :: ' ' :: value)

theorem word_token {token : List Char} (visible : ∀ c ∈ token, isBlank c = false) : word (' ' :: token) = (token, []) := by
  have shown : ∀ c ∈ token, (!isBlank c) = true := fun c member => by rw [visible c member]; rfl
  have kept : skipBlanks (' ' :: token) = token := by
    cases token with
    | nil => rfl
    | cons c rest => exact skipBlanks_cons (visible c List.mem_cons_self) rest
  rw [word, kept, List.takeWhile_eq_self_iff.mpr shown, List.dropWhile_eq_nil_iff.mpr shown]

section
variable {name last : List Char} {labels : List (List Char × List Char)} (readValue : List Char → Option V)
variable (named : isName true name = true) (plain : ∀ label ∈ labels, PlainLabel label)
include named plain

theorem readSample_open (s : List Char) :
    ∃ fuel, readSample readValue (sampleOpen name labels last ++ s) =
      (readLabels (fuel + 1) (labelOpen last ++ s)).bind fun (more, rest) => readTail readValue name (labels ++ more) rest := by
  have brace : skipBlanks ('{' :: (labelsOpen labels ++ (labelOpen last ++ s))) =
      '{' :: (labelsOpen labels ++ (labelOpen last ++ s)) := rfl
  have long : labels.length ≤ (labelsOpen labels ++ (labelOpen last ++ s)).length := by
    have shorter := labelsOpen_length labels
    rw [List.length_append]
    omega
  obtain ⟨fuel, counted⟩ := Nat.exists_eq_add_of_le long
  refine ⟨fuel, ?_⟩
  have behind := readLabels_behind plain (fuel + 1) (labelOpen last ++ s)
  have enough : labels.length + fuel + 1 = fuel + 1 + labels.length := by omega
  rw [sampleOpen, List.append_assoc, List.cons_append, List.append_assoc, readSample, readName_append named rfl,
    Option.bind_some]
  simp only [brace, counted, enough, behind]
  cases readLabels (fuel + 1) (labelOpen last ++ s) <;> rfl

variable (lastNamed : isName false last = true)
include lastNamed

/-- Where a sample is read at all, so are its name, its labels and the value of the last of them. -/
theorem readSample_last {s : List Char} {sample : Sample V}
    (read : readSample readValue (sampleOpen name labels last ++ s) = some sample) :
    ∃ value rest more, readQuoted false s = some (value, rest) ∧ sample.name = name ∧
      sample.labels = labels ++ (last, value) :: more := by
  obtain ⟨fuel, opened⟩ := readSample_open readValue named plain s
  rw [opened, readLabels_open lastNamed] at read
  obtain ⟨⟨more, rest⟩, labelled, behind⟩ := Option.bind_eq_some_iff.mp read
  obtain ⟨⟨value, left⟩, quoted, others⟩ := Option.bind_eq_some_iff.mp labelled
  obtain ⟨x, _, ended⟩ := Option.bind_eq_some_iff.mp behind
  have sampled : sample = ⟨name, labels ++ more, x⟩ := by
    split at ended
    · exact (Option.some.inj ended).symm
    · cases ended
  have headed : ∃ later, more = (last, value) :: later := by
    dsimp only at others
    split at others
    · obtain ⟨⟨later, _⟩, _, same⟩ := Option.map_eq_some_iff.mp others
      cases same
      exact ⟨later, rfl⟩
    · cases others
      exact ⟨[], rfl⟩
    · cases others
  obtain ⟨later, rfl⟩ := headed
  exact ⟨value, left, later, quoted, congrArg Sample.name sampled, congrArg Sample.labels sampled⟩

theorem readSample_text {value token : List Char} {x : V} (valuePlain : Plain value)
    (read : readValue token = some x) (visible : ∀ c ∈ token, isBlank c = false) :
    readSample readValue (sampleText name labels (last, value) token) = some ⟨name, labels ++ [(last, value)], x⟩ := by
  obtain ⟨fuel, opened⟩ := readSample_open readValue named plain (value ++ '"' :: '}' :: ' ' :: token)
  have brace : skipBlanks ('}' :: ' ' :: token) = '}' :: ' ' :: token := rfl
  rw [sampleText, opened, readLabels_open lastNamed, readQuoted_plain valuePlain]
  simp only [Option.bind_some, brace]
  rw [readTail, word_token visible, read, Option.bind_some]
  rfl

end

/-- A line that starts with a name is a sample. -/
theorem readLine_name (readValue : List Char → Option V) {name : List Char} (named : isName true name = true)
    (s : List Char) : readLine readValue (name ++ s) = (readSample readValue (name ++ s)).map fun sample => [sample] := by
  obtain ⟨kept, c, rest, first, _, comment⟩ := skipBlanks_name named s
  rw [readLine, kept]
  rw [first]
  split
  · next none => cases none
  · next same => exact absurd (List.cons.inj same).1 comment
  · rfl

theorem name_single {colon : Bool} {name : List Char} (named : isName colon name = true) : '\n' ∉ name := by
  have feed : isNamePart colon '\n' = false := by cases colon <;> rfl
  have start : isNameStart colon '\n' = false := by cases colon <;> rfl
  cases name with
  | nil => exact List.not_mem_nil
  | cons c rest =>
    rw [isName, Bool.and_eq_true] at named
    rw [List.mem_cons, not_or]
    refine ⟨?_, fun member => ?_⟩
    · rintro rfl
      exact Bool.false_ne_true (start.symm.trans named.1)
    · exact Bool.false_ne_true (feed.symm.trans (List.all_eq_true.mp named.2 _ member))

theorem labelOpen_single {name : List Char} (named : isName false name = true) : '\n' ∉ labelOpen name := by
  have single := name_single named
  simp [labelOpen, single]

theorem sampleOpen_single {name last : List Char} {labels : List (List Char × List Char)} (named : isName true name = true)
    (plain : ∀ label ∈ labels, PlainLabel label) (lastNamed : isName false last = true) :
    '\n' ∉ sampleOpen name labels last := by
  have single := name_single named
  have open_label := labelOpen_single lastNamed
  have others : '\n' ∉ labelsOpen labels := by
    intro member
    obtain ⟨label, held, inside⟩ := List.mem_flatMap.mp member
    have first := labelOpen_single (plain label held).named
    have value := (plain label held).plain.single
    simp [first, value] at inside
  simp [sampleOpen, single, open_label, others]

theorem readLine_open (readValue : List Char → Option V) {name : List Char} (named : isName true name = true)
    (labels : List (List Char × List Char)) (last s : List Char) :
    readLine readValue (sampleOpen name labels last ++ s) =
      (readSample readValue (sampleOpen name labels last ++ s)).map fun sample => [sample] := by
  rw [sampleOpen, List.append_assoc]
  exact readLine_name readValue named _

/-- A line that is opened as a sample and is read, is a sample with this name and these labels. -/
theorem readLine_last {readValue : List Char → Option V} {name last s : List Char} {labels : List (List Char × List Char)}
    (named : isName true name = true) (plain : ∀ label ∈ labels, PlainLabel label) (lastNamed : isName false last = true)
    {now : List (Sample V)} (read : readLine readValue (sampleOpen name labels last ++ s) = some now) :
    ∃ sample ∈ now, ∃ value rest more, readQuoted false s = some (value, rest) ∧ sample.name = name ∧
      sample.labels = labels ++ (last, value) :: more := by
  rw [readLine_open readValue named] at read
  obtain ⟨sample, sampled, rfl⟩ := Option.map_eq_some_iff.mp read
  exact ⟨sample, List.mem_singleton_self sample, readSample_last readValue named plain lastNamed sampled⟩

/-- A sample with plain label values is one line, and is read back. -/
theorem readLine_text {readValue : List Char → Option V} {name last value token : List Char}
    {labels : List (List Char × List Char)} {x : V} (named : isName true name = true)
    (plain : ∀ label ∈ labels, PlainLabel label) (lastNamed : isName false last = true) (valuePlain : Plain value)
    (read : readValue token = some x) (visible : ∀ c ∈ token, isBlank c = false) (single : '\n' ∉ token) :
    '\n' ∉ sampleText name labels (last, value) token ∧
      readLine readValue (sampleText name labels (last, value) token) = some [⟨name, labels ++ [(last, value)], x⟩] := by
  have opened := sampleOpen_single named plain lastNamed
  have inside := valuePlain.single
  have sample := readSample_text readValue named plain lastNamed valuePlain read visible
  have line := readLine_open readValue named labels last (value ++ '"' :: '}' :: ' ' :: token)
  refine ⟨by simp [sampleText, opened, inside, single], ?_⟩
  exact line.trans (congrArg (Option.map _) sample)

/-- The first piece of a line starts with what the line starts with, up to its first line feed. -/
theorem splitOn_first {start : List Char} (single : '\n' ∉ start) (s : List Char) :
    ∃ first after, start ++ first ∈ (start ++ s).splitOn '\n' ∧ s = first ++ after := by
  by_cases feed : '\n' ∈ s
  · obtain ⟨first, after, rfl, fresh⟩ := List.eq_append_cons_of_mem feed
    have whole : '\n' ∉ start ++ first := by simp [single, fresh]
    refine ⟨first, '\n' :: after, ?_, rfl⟩
    rw [← List.append_assoc, List.splitOn_append_cons_self_of_not_mem whole]
    exact List.mem_cons_self
  · have whole : '\n' ∉ start ++ s := by simp [single, feed]
    refine ⟨s, [], ?_, (List.append_nil s).symm⟩
    rw [List.splitOn_eq_singleton whole]
    exact List.mem_cons_self

theorem sampleText_first {name last : List Char} {labels : List (List Char × List Char)} (named : isName true name = true)
    (plain : ∀ label ∈ labels, PlainLabel label) (lastNamed : isName false last = true) (value token : List Char) :
    ∃ first after, sampleOpen name labels last ++ first ∈ (sampleText name labels (last, value) token).splitOn '\n' ∧
      value ++ '"' :: '}' :: ' ' :: token = first ++ after :=
  splitOn_first (sampleOpen_single named plain lastNamed) _

theorem readLines_append (readValue : List Char → Option V) (lines more : List (List Char)) :
    readLines readValue (lines ++ more) =
      (readLines readValue lines).bind fun now => (readLines readValue more).map fun later => now ++ later := by
  induction lines with
  | nil => cases held : readLines readValue more <;> simp [readLines, held]
  | cons line lines ih =>
    rw [List.cons_append, readLines, readLines, ih]
    cases readLine readValue line with
    | none => rfl
    | some now =>
      cases readLines readValue lines with
      | none => rfl
      | some later => cases readLines readValue more <;> simp

/-- Every line of a text that is read, is read, and what it gives is among the samples. -/
theorem readLines_mem {readValue : List Char → Option V} {lines : List (List Char)} {samples : List (Sample V)}
    (read : readLines readValue lines = some samples) {line : List Char} (member : line ∈ lines) :
    ∃ now, readLine readValue line = some now ∧ ∀ sample ∈ now, sample ∈ samples := by
  obtain ⟨before, after, rfl⟩ := List.append_of_mem member
  rw [readLines_append] at read
  obtain ⟨first, _, rest⟩ := Option.bind_eq_some_iff.mp read
  obtain ⟨others, later, rfl⟩ := Option.map_eq_some_iff.mp rest
  obtain ⟨now, own, last⟩ := Option.bind_eq_some_iff.mp later
  obtain ⟨more, _, rfl⟩ := Option.map_eq_some_iff.mp last
  exact ⟨now, own, fun sample held => List.mem_append_right _ (List.mem_append_left _ held)⟩

/-- Lines as a text, each ended. -/
def linesText (lines : List (List Char)) : List Char := lines.flatMap fun line => line ++ ['\n']

theorem linesText_split (lines : List (List Char)) :
    (linesText lines).splitOn '\n' = (lines.flatMap fun line => line.splitOn '\n') ++ [[]] := by
  induction lines with
  | nil => rfl
  | cons line lines ih =>
    have text : linesText (line :: lines) = line ++ '\n' :: linesText lines := by simp [linesText]
    rw [text, List.splitOn_append_cons_self, ih, List.flatMap_cons, List.append_assoc]

theorem linesText_ended (lines : List (List Char)) : (linesText lines).getLast?.all (· = '\n') = true := by
  rcases List.eq_nil_or_concat lines with rfl | ⟨before, last, rfl⟩
  · rfl
  · simp [linesText]

/-- A text of lines is read line by line, where a line with line feeds in it is several. -/
theorem parse_linesText (readValue : List Char → Option V) (lines : List (List Char)) :
    parse readValue (linesText lines) = readLines readValue (lines.flatMap fun line => line.splitOn '\n') := by
  have empty : readLines readValue [[]] = some [] := rfl
  rw [parse, if_pos (linesText_ended lines), linesText_split, readLines_append, empty]
  cases readLines readValue (lines.flatMap fun line => line.splitOn '\n') <;> simp

/-- Lines that are one sample each. -/
theorem readLines_samples {α : Type} {readValue : List Char → Option V} {line : α → List Char} {sample : α → Sample V}
    {l : List α} (single : ∀ x ∈ l, '\n' ∉ line x) (read : ∀ x ∈ l, readLine readValue (line x) = some [sample x]) :
    readLines readValue ((l.map line).flatMap fun line => line.splitOn '\n') = some (l.map sample) := by
  induction l with
  | nil => rfl
  | cons x l ih =>
    obtain ⟨alone, others⟩ := List.forall_mem_cons.mp single
    obtain ⟨first, later⟩ := List.forall_mem_cons.mp read
    rw [List.map_cons, List.flatMap_cons, List.splitOn_eq_singleton alone, readLines_append, ih others later, readLines,
      first]
    rfl

end Exposition

end Codec
