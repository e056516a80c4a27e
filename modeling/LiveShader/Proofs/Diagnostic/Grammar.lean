import LiveShader.Diagnostic.Format
import LiveShader.Proofs.Text.Digit
import LiveShader.Proofs.Text.Runs

/-!
# The grammars of diagnostics

A grammar says which parts a line of compiler output is put together from, and knows nothing
of how the parts are found. Each format accepts its grammar exactly (`AcceptsExactly`): it
finds parts if there are any, and there are never two ways to divide a line, because each
part ends where its class of characters does.
-/

namespace LiveShader

namespace DiagnosticFormat

/-- A format accepts a grammar exactly: it makes of a line what the grammar makes of its
parts, these are the only parts of the line, and it refuses a line that has no parts. -/
structure AcceptsExactly {Parts : Type} (format : DiagnosticFormat)
    (divides : Parts → String → Prop) (complaint : Parts → Complaint) : Prop where
  parse?_eq_some_iff : ∀ raw result, format.parse? raw = some result ↔
    ∃ parts, divides parts raw ∧ complaint parts = result
  unique : ∀ raw first second, divides first raw → divides second raw → first = second
  parse?_eq_none_iff : ∀ raw, format.parse? raw = none ↔ ∀ parts, ¬ divides parts raw

/-- A format accepts exactly the lines of a grammar if it is sound and complete, and the grammar
is unambiguous. -/
theorem acceptsExactly_of {Parts : Type} {format : DiagnosticFormat}
    {divides : Parts → String → Prop} {complaint : Parts → Complaint}
    (sound : ∀ {raw result}, format.parse? raw = some result →
      ∃ parts, divides parts raw ∧ complaint parts = result)
    (complete : ∀ {raw parts}, divides parts raw → format.parse? raw = some (complaint parts))
    (unique : ∀ {raw first second}, divides first raw → divides second raw → first = second) :
    format.AcceptsExactly divides complaint where
  parse?_eq_some_iff raw result := by
    constructor
    · exact sound
    · rintro ⟨parts, isDivided, rfl⟩
      exact complete isDivided
  unique raw first second := unique
  parse?_eq_none_iff raw := by
    constructor
    · intro refused parts isDivided
      cases refused.symm.trans (complete isDivided)
    · intro undivided
      cases parsed : format.parse? raw with
      | none => rfl
      | some result =>
        obtain ⟨parts, isDivided, -⟩ := sound parsed
        exact absurd isDivided (undivided parts)

/-! ## Classes of characters -/

/-- A unit has no blanks and no parentheses in it. -/
theorem isUnitCharacter_iff {character : Char} : isUnitCharacter character = true ↔
    Text.isBlank character = false ∧ character ≠ '(' ∧ character ≠ ')' := by
  simp [isUnitCharacter, and_assoc]

/-- The letters of a severity are those of the alphabet. -/
theorem isLetter_eq_isAlpha (character : Char) : isLetter character = character.isAlpha := by
  have upper : (decide ('A' ≤ character) && decide (character ≤ 'Z')) = character.isUpper :=
    (Bool.decide_and _ _).symm
  rw [isLetter, upper]
  exact Bool.or_comm character.isLower character.isUpper

/-- A letter is in one of two ranges of the ASCII table. -/
theorem isAlpha_iff {character : Char} : character.isAlpha = true ↔
    65 ≤ character.toNat ∧ character.toNat ≤ 90 ∨
      97 ≤ character.toNat ∧ character.toNat ≤ 122 := by
  rw [← isLetter_eq_isAlpha, isLetter, or_comm]
  simp only [Bool.or_eq_true, Bool.and_eq_true, decide_eq_true_eq, Char.le_def,
    UInt32.le_iff_toNat_le]
  rfl

/-- A letter is no blank. -/
theorem isBlank_of_isAlpha {character : Char} (isAlpha : character.isAlpha = true) :
    Text.isBlank character = false := by
  rw [isAlpha_iff] at isAlpha
  simp only [Text.isBlank, Bool.or_eq_false_iff, Bool.and_eq_false_iff, decide_eq_false_iff_not,
    beq_eq_false_iff_ne]
  omega

/-- A digit is no blank and no letter. -/
theorem classes_of_isDecimalDigit {character : Char}
    (isDigit : Text.isDecimalDigit character = true) :
    Text.isBlank character = false ∧ character.isAlpha = false := by
  obtain ⟨first, isZero, inRun⟩ := List.any_eq_true.1 isDigit
  simp only [Bool.and_eq_true, decide_eq_true_eq] at inRun
  -- The runs of ten digits keep clear of the letters and of each group of blanks.
  have apart : ∀ first ∈ Text.digitZeros, (first = 0x30 ∨ 0x660 ≤ first) ∧
      (first + 10 ≤ 0x1680 ∨ 0x1681 ≤ first) ∧ (first + 10 ≤ 0x2000 ∨ 0x3001 ≤ first) := by
    decide
  have apartHere := apart first isZero
  constructor
  · simp only [Text.isBlank, Bool.or_eq_false_iff, Bool.and_eq_false_iff,
      decide_eq_false_iff_not, beq_eq_false_iff_ne]
    omega
  · rw [← Bool.not_eq_true, isAlpha_iff]
    omega

end DiagnosticFormat

/-! ## The line in parentheses -/

/-- The parts of a line that has its number in parentheses: blanks, the name of a unit, and
the digits of the number in their parentheses. -/
structure ParenParts where
  blanks : List Char
  unit : List Char
  digits : List Char
  number : Nat
  rest : List Char

namespace ParenParts

/-- Parts that are well formed, put together to a line. A unit may have no name. -/
structure Divides (parts : ParenParts) (raw : String) : Prop where
  raw_eq : raw.toList =
    parts.blanks ++ (parts.unit ++ '(' :: (parts.digits ++ ')' :: parts.rest))
  blank : ∀ character ∈ parts.blanks, Text.isBlank character = true
  unit : ∀ character ∈ parts.unit,
    Text.isBlank character = false ∧ character ≠ '(' ∧ character ≠ ')'
  number : Text.WritesLine parts.digits parts.number

/-- What the parts say. -/
def complaint (parts : ParenParts) : Complaint :=
  ⟨"", parts.number, String.ofList parts.rest⟩

variable {parts : ParenParts} {raw : String}

/-- Each part is the longest run of its class. -/
theorem Divides.runs (divides : parts.Divides raw) :
    Text.Runs Text.isBlank raw.toList parts.blanks
      (parts.unit ++ '(' :: (parts.digits ++ ')' :: parts.rest)) ∧
    Text.Runs DiagnosticFormat.isUnitCharacter
      (parts.unit ++ '(' :: (parts.digits ++ ')' :: parts.rest)) parts.unit
      ('(' :: (parts.digits ++ ')' :: parts.rest)) ∧
    Text.Runs Text.isDecimalDigit (parts.digits ++ ')' :: parts.rest) parts.digits
      (')' :: parts.rest) := by
  refine ⟨⟨divides.raw_eq, divides.blank, ?_⟩, ⟨rfl, ?_, ?_⟩, ⟨rfl, ?_, ?_⟩⟩
  · intro character isHead
    cases name : parts.unit with
    | nil =>
      rw [name] at isHead
      obtain rfl := Option.some.inj isHead
      decide
    | cons head tail =>
      rw [name] at isHead
      obtain rfl := Option.some.inj isHead
      exact (divides.unit head (name ▸ List.mem_cons_self)).1
  · exact fun character member =>
      DiagnosticFormat.isUnitCharacter_iff.2 (divides.unit character member)
  · rintro character ⟨⟩
    decide
  · exact fun digit member =>
      Text.isDecimalDigit_of_isDigit (divides.number.ascii digit member)
  · rintro character ⟨⟩
    decide

/-- A line that the grammar divides is parsed to what its parts say. -/
theorem Divides.parse?_eq (divides : parts.Divides raw) :
    DiagnosticFormat.paren.parse? raw = some parts.complaint := by
  obtain ⟨blanks, unit, digits⟩ := divides.runs
  obtain ⟨-, behindBlanks⟩ := Text.runs_iff.1 blanks
  obtain ⟨-, behindUnit⟩ := Text.runs_iff.1 unit
  obtain ⟨digits_eq, behindDigits⟩ := Text.runs_iff.1 digits
  rw [DiagnosticFormat.parse?, DiagnosticFormat.parseParen?, ← behindBlanks, ← behindUnit]
  simp only [← behindDigits, ← digits_eq, Text.lineNumber?_eq_some_iff.2 divides.number]
  rfl

/-- What was parsed is what the parts of some division say. -/
theorem exists_divides {result : Complaint}
    (parsed : DiagnosticFormat.paren.parse? raw = some result) :
    ∃ parts : ParenParts, parts.Divides raw ∧ parts.complaint = result := by
  rw [DiagnosticFormat.parse?, DiagnosticFormat.parseParen?] at parsed
  have blanks := Text.runs_takeWhile Text.isBlank raw.toList
  generalize raw.toList.takeWhile Text.isBlank = before,
    raw.toList.dropWhile Text.isBlank = named at blanks parsed
  have unit := Text.runs_takeWhile DiagnosticFormat.isUnitCharacter named
  split at parsed
  · rename_i inside opens
    have digits := Text.runs_takeWhile Text.isDecimalDigit inside
    split at parsed
    · rename_i rest closes
      obtain ⟨number, isNumber, rfl⟩ := Option.map_eq_some_iff.1 parsed
      rw [opens] at unit
      rw [closes] at digits
      refine ⟨⟨before, named.takeWhile DiagnosticFormat.isUnitCharacter,
        inside.takeWhile Text.isDecimalDigit, number, rest⟩, ⟨?_, blanks.accepted, ?_,
        Text.lineNumber?_eq_some_iff.1 isNumber⟩, rfl⟩
      · rw [← digits.text_eq, ← unit.text_eq, ← blanks.text_eq]
      · exact fun character member =>
          DiagnosticFormat.isUnitCharacter_iff.1 (unit.accepted character member)
    · cases parsed
  · cases parsed

/-- A line is divided in one way only. -/
theorem Divides.unique {others : ParenParts} (divides : parts.Divides raw)
    (otherwise : others.Divides raw) : parts = others := by
  obtain ⟨blanks, unit, digits, number, rest⟩ := parts
  obtain ⟨otherBlanks, otherUnit, otherDigits, otherNumber, otherRest⟩ := others
  obtain ⟨blankRuns, unitRuns, digitRuns⟩ := divides.runs
  obtain ⟨otherBlankRuns, otherUnitRuns, otherDigitRuns⟩ := otherwise.runs
  obtain ⟨rfl, behindBlanks⟩ := blankRuns.unique otherBlankRuns
  obtain ⟨rfl, behindUnit⟩ := unitRuns.unique (behindBlanks ▸ otherUnitRuns)
  obtain ⟨rfl, behindDigits⟩ := digitRuns.unique ((List.cons.inj behindUnit).2 ▸ otherDigitRuns)
  obtain ⟨-, rfl⟩ := List.cons.inj behindDigits
  obtain rfl : number = otherNumber := divides.number.value.symm.trans otherwise.number.value
  rfl

end ParenParts

/-- The format with parentheses accepts its grammar exactly. -/
theorem DiagnosticFormat.paren_acceptsExactly :
    paren.AcceptsExactly ParenParts.Divides ParenParts.complaint :=
  acceptsExactly_of ParenParts.exists_divides ParenParts.Divides.parse?_eq
    ParenParts.Divides.unique

example : DiagnosticFormat.paren.parse? "0(4294967296) : error: late" = none := by decide

/-! ## The line behind a colon -/

/-- A severity in front of a location: letters, a colon, and blanks behind it. -/
structure SeverityParts where
  letters : List Char
  blanks : List Char

namespace SeverityParts

/-- The severity as it is written. -/
def text (severity : SeverityParts) : List Char :=
  severity.letters ++ ':' :: severity.blanks

/-- A severity is well formed. -/
structure IsFormed (severity : SeverityParts) : Prop where
  nonempty : severity.letters ≠ []
  letter : ∀ character ∈ severity.letters, character.isAlpha = true
  blank : ∀ character ∈ severity.blanks, Text.isBlank character = true

/-- A severity that may be missing, as it is written. -/
def optionalText (severity : Option SeverityParts) : List Char :=
  severity.elim [] text

variable {severity other : SeverityParts}

/-- Letters are a longest run: the colon behind them is none. -/
theorem IsFormed.runs (formed : severity.IsFormed) (rest : List Char) :
    Text.Runs DiagnosticFormat.isLetter (severity.text ++ rest) severity.letters
      (':' :: (severity.blanks ++ rest)) where
  text_eq := by simp [text]
  accepted character member := by
    rw [DiagnosticFormat.isLetter_eq_isAlpha, formed.letter character member]
  ended := by
    rintro character ⟨⟩
    decide

/-- A severity is told by its text. -/
theorem IsFormed.eq_of_text_eq (formed : severity.IsFormed) (otherFormed : other.IsFormed)
    (same : severity.text = other.text) : severity = other := by
  obtain ⟨letters, blanks⟩ := severity
  obtain ⟨otherLetters, otherBlanks⟩ := other
  obtain ⟨rfl, behind⟩ := (formed.runs []).unique (same ▸ otherFormed.runs [])
  rw [List.cons.injEq, List.append_nil, List.append_nil] at behind
  obtain ⟨-, rfl⟩ := behind
  rfl

/-- Whether there is a severity is told by the text as well. -/
theorem eq_of_optionalText_eq {severity other : Option SeverityParts}
    (formed : ∀ parts ∈ severity, parts.IsFormed) (otherFormed : ∀ parts ∈ other, parts.IsFormed)
    (same : optionalText severity = optionalText other) : severity = other := by
  cases severity with
  | none =>
    cases other with
    | none => rfl
    | some otherParts => simp [optionalText, text] at same
  | some parts =>
    cases other with
    | none => simp [optionalText, text] at same
    | some otherParts =>
      exact congrArg some ((formed parts rfl).eq_of_text_eq (otherFormed otherParts rfl) same)

/-- In front of a digit, the severity that is written is taken. -/
theorem takeSeverity_append {severity : Option SeverityParts} {located : List Char}
    (formed : ∀ parts ∈ severity, parts.IsFormed)
    (numbered : ∃ digit ∈ located.head?, Text.isDecimalDigit digit = true) :
    DiagnosticFormat.takeSeverity (optionalText severity ++ located) =
      (optionalText severity, located) := by
  obtain ⟨digit, isHead, isDigit⟩ := numbered
  obtain ⟨notBlank, notLetter⟩ := DiagnosticFormat.classes_of_isDecimalDigit isDigit
  obtain ⟨tail, rfl⟩ := List.head?_eq_some_iff.1 isHead
  cases severity with
  | none =>
    have noLetters : (digit :: tail).takeWhile DiagnosticFormat.isLetter = [] := by
      rw [List.takeWhile_cons_of_neg]
      simp [DiagnosticFormat.isLetter_eq_isAlpha, notLetter]
    rw [DiagnosticFormat.takeSeverity, optionalText, Option.elim_none, List.nil_append, noLetters]
  | some parts =>
    have formedHere := formed parts rfl
    obtain ⟨letters_eq, behind⟩ := Text.runs_iff.1 (formedHere.runs (digit :: tail))
    obtain ⟨letter, letters, isCons⟩ := List.exists_cons_of_ne_nil formedHere.nonempty
    have blanks : Text.Runs Text.isBlank (parts.blanks ++ digit :: tail) parts.blanks
        (digit :: tail) := by
      refine ⟨rfl, formedHere.blank, ?_⟩
      rintro character ⟨⟩
      exact notBlank
    obtain ⟨blanks_eq, behindBlanks⟩ := Text.runs_iff.1 blanks
    rw [DiagnosticFormat.takeSeverity, optionalText, Option.elim_some, ← letters_eq, ← behind,
      isCons]
    simp only [← blanks_eq, ← behindBlanks, text, isCons]

/-- What is taken at the start of a text is a severity, or nothing. -/
theorem exists_takeSeverity_eq (before : List Char) :
    ∃ severity located, (∀ parts ∈ severity, IsFormed parts) ∧
      before = optionalText severity ++ located ∧
      DiagnosticFormat.takeSeverity before = (optionalText severity, located) := by
  have letters := Text.runs_takeWhile DiagnosticFormat.isLetter before
  unfold DiagnosticFormat.takeSeverity
  split
  · exact ⟨none, before, by simp, rfl, rfl⟩
  · rename_i rest colon nonempty
    have blanks := Text.runs_takeWhile Text.isBlank rest
    rw [colon] at letters
    refine ⟨some ⟨before.takeWhile DiagnosticFormat.isLetter, rest.takeWhile Text.isBlank⟩,
      rest.dropWhile Text.isBlank, ?_, ?_, rfl⟩
    · rintro parts ⟨⟩
      refine ⟨nonempty, fun character member => ?_, blanks.accepted⟩
      rw [← DiagnosticFormat.isLetter_eq_isAlpha]
      exact letters.accepted character member
    · rw [optionalText, Option.elim_some, text, List.append_assoc, List.cons_append,
        ← blanks.text_eq, ← letters.text_eq]
  · exact ⟨none, before, by simp, rfl, rfl⟩

end SeverityParts

/-- The parts of a line that has its number behind a colon: blanks, a severity that may be
missing, the number of a unit, and the digits of the number of a line. -/
structure ColonParts where
  blanks : List Char
  severity : Option SeverityParts
  unit : List Char
  digits : List Char
  number : Nat
  rest : List Char

namespace ColonParts

/-- What stands in front of the number of the unit. -/
def lead (parts : ColonParts) : List Char :=
  parts.blanks ++ SeverityParts.optionalText parts.severity

/-- Parts that are well formed, put together to a line. The unit is numbered with digits of any
script. -/
structure Divides (parts : ColonParts) (raw : String) : Prop where
  raw_eq : raw.toList = parts.lead ++ (parts.unit ++ ':' :: (parts.digits ++ parts.rest))
  blank : ∀ character ∈ parts.blanks, Text.isBlank character = true
  severity : ∀ severity ∈ parts.severity, severity.IsFormed
  unit_ne : parts.unit ≠ []
  unit : ∀ character ∈ parts.unit, Text.isDecimalDigit character = true
  number : Text.WritesLine parts.digits parts.number
  ended : ∀ character ∈ parts.rest.head?, Text.isDecimalDigit character = false

/-- What the parts say. -/
def complaint (parts : ColonParts) : Complaint :=
  ⟨String.ofList parts.lead, parts.number, String.ofList parts.rest⟩

variable {parts : ColonParts} {raw : String}

/-- The location starts with a digit. -/
theorem Divides.numbered (divides : parts.Divides raw) :
    ∃ digit ∈ (parts.unit ++ ':' :: (parts.digits ++ parts.rest)).head?,
      Text.isDecimalDigit digit = true := by
  obtain ⟨digit, unit, isCons⟩ := List.exists_cons_of_ne_nil divides.unit_ne
  rw [isCons]
  exact ⟨digit, rfl, divides.unit digit (isCons ▸ List.mem_cons_self)⟩

/-- Each part is the longest run of its class. -/
theorem Divides.runs (divides : parts.Divides raw) :
    Text.Runs Text.isBlank raw.toList parts.blanks
      (SeverityParts.optionalText parts.severity ++
        (parts.unit ++ ':' :: (parts.digits ++ parts.rest))) ∧
    Text.Runs Text.isDecimalDigit (parts.unit ++ ':' :: (parts.digits ++ parts.rest)) parts.unit
      (':' :: (parts.digits ++ parts.rest)) ∧
    Text.Runs Text.isDecimalDigit (parts.digits ++ parts.rest) parts.digits parts.rest := by
  refine ⟨⟨?_, divides.blank, ?_⟩, ⟨rfl, divides.unit, ?_⟩, ⟨rfl, ?_, divides.ended⟩⟩
  · rw [divides.raw_eq, lead, List.append_assoc]
  · intro character isHead
    cases tagged : parts.severity with
    | none =>
      obtain ⟨digit, isFirst, isDigit⟩ := divides.numbered
      rw [tagged] at isHead
      obtain rfl := Option.some.inj (isFirst.symm.trans isHead)
      exact (DiagnosticFormat.classes_of_isDecimalDigit isDigit).1
    | some severity =>
      have formed := divides.severity severity tagged
      obtain ⟨letter, letters, isCons⟩ := List.exists_cons_of_ne_nil formed.nonempty
      rw [tagged, SeverityParts.optionalText, Option.elim_some, SeverityParts.text, isCons]
        at isHead
      obtain rfl := Option.some.inj isHead
      exact DiagnosticFormat.isBlank_of_isAlpha
        (formed.letter letter (isCons ▸ List.mem_cons_self))
  · rintro character ⟨⟩
    decide
  · exact fun digit member =>
      Text.isDecimalDigit_of_isDigit (divides.number.ascii digit member)

/-- The severity is taken off a line, if there is one. -/
theorem Divides.takeSeverity_eq (divides : parts.Divides raw) :
    DiagnosticFormat.takeSeverity (SeverityParts.optionalText parts.severity ++
        (parts.unit ++ ':' :: (parts.digits ++ parts.rest))) =
      (SeverityParts.optionalText parts.severity,
        parts.unit ++ ':' :: (parts.digits ++ parts.rest)) :=
  SeverityParts.takeSeverity_append divides.severity divides.numbered

/-- A line that the grammar divides is parsed to what its parts say. -/
theorem Divides.parse?_eq (divides : parts.Divides raw) :
    DiagnosticFormat.colon.parse? raw = some parts.complaint := by
  obtain ⟨blanks, unit, digits⟩ := divides.runs
  obtain ⟨blanks_eq, behindBlanks⟩ := Text.runs_iff.1 blanks
  obtain ⟨unit_eq, behindUnit⟩ := Text.runs_iff.1 unit
  obtain ⟨digits_eq, behindDigits⟩ := Text.runs_iff.1 digits
  rw [DiagnosticFormat.parse?, DiagnosticFormat.parseColon?, ← blanks_eq, ← behindBlanks,
    divides.takeSeverity_eq]
  simp only [← unit_eq, ← behindUnit, List.isEmpty_iff, if_neg divides.unit_ne, ← digits_eq,
    ← behindDigits, Text.lineNumber?_eq_some_iff.2 divides.number]
  rfl

/-- What was parsed is what the parts of some division say. -/
theorem exists_divides {result : Complaint}
    (parsed : DiagnosticFormat.colon.parse? raw = some result) :
    ∃ parts : ColonParts, parts.Divides raw ∧ parts.complaint = result := by
  rw [DiagnosticFormat.parse?, DiagnosticFormat.parseColon?] at parsed
  have blanks := Text.runs_takeWhile Text.isBlank raw.toList
  generalize raw.toList.takeWhile Text.isBlank = before,
    raw.toList.dropWhile Text.isBlank = tagged at blanks parsed
  obtain ⟨severity, located, formed, rfl, taken⟩ := SeverityParts.exists_takeSeverity_eq tagged
  have unit := Text.runs_takeWhile Text.isDecimalDigit located
  rw [taken] at parsed
  simp only [List.isEmpty_iff] at parsed
  split at parsed
  · cases parsed
  · rename_i unit_ne
    split at parsed
    · rename_i numbered colon
      have digits := Text.runs_takeWhile Text.isDecimalDigit numbered
      obtain ⟨number, isNumber, rfl⟩ := Option.map_eq_some_iff.1 parsed
      rw [colon] at unit
      refine ⟨⟨before, severity, located.takeWhile Text.isDecimalDigit,
        numbered.takeWhile Text.isDecimalDigit, number, numbered.dropWhile Text.isDecimalDigit⟩,
        ⟨?_, blanks.accepted, formed, unit_ne, unit.accepted,
          Text.lineNumber?_eq_some_iff.1 isNumber, digits.ended⟩, rfl⟩
      rw [lead, List.append_assoc, ← digits.text_eq, ← unit.text_eq, ← blanks.text_eq]
    · cases parsed

/-- A line is divided in one way only. -/
theorem Divides.unique {others : ColonParts} (divides : parts.Divides raw)
    (otherwise : others.Divides raw) : parts = others := by
  have taken := divides.takeSeverity_eq
  have otherTaken := otherwise.takeSeverity_eq
  obtain ⟨blanks, severity, unit, digits, number, rest⟩ := parts
  obtain ⟨otherBlanks, otherSeverity, otherUnit, otherDigits, otherNumber, otherRest⟩ := others
  obtain ⟨blankRuns, unitRuns, digitRuns⟩ := divides.runs
  obtain ⟨otherBlankRuns, otherUnitRuns, otherDigitRuns⟩ := otherwise.runs
  obtain ⟨rfl, behindBlanks⟩ := blankRuns.unique otherBlankRuns
  rw [behindBlanks] at taken
  obtain ⟨sameText, located⟩ := Prod.mk.inj (taken.symm.trans otherTaken)
  obtain ⟨rfl, behindUnit⟩ := unitRuns.unique (located ▸ otherUnitRuns)
  obtain ⟨rfl, rfl⟩ := digitRuns.unique ((List.cons.inj behindUnit).2 ▸ otherDigitRuns)
  obtain rfl : number = otherNumber := divides.number.value.symm.trans otherwise.number.value
  obtain rfl : severity = otherSeverity :=
    SeverityParts.eq_of_optionalText_eq divides.severity otherwise.severity sameText
  rfl

end ColonParts

/-- The format with colons accepts its grammar exactly. -/
theorem DiagnosticFormat.colon_acceptsExactly :
    colon.AcceptsExactly ColonParts.Divides ColonParts.complaint :=
  acceptsExactly_of ColonParts.exists_divides ColonParts.Divides.parse?_eq
    ColonParts.Divides.unique

example : DiagnosticFormat.colon.parse? "ERROR: ٣:007(1)" = some ⟨"ERROR: ", 7, "(1)"⟩ := by decide

end LiveShader
