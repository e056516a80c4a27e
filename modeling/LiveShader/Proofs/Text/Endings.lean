import LiveShader.Proofs.Text.Lines

/-!
# Lines and their endings

`Writes` says which lines a text was written from: each line may end in a line feed or in a
carriage return and a line feed, and a last line that is not empty may go without an ending.
The relation, rather than `lines`, is authoritative; `lines_eq` is the result that reading
gives the lines back, whatever the endings were.

The relation is stated over any kind of items, because the lines of a file are bytes before
they are characters. A file is not cut within a character, so it is UTF-8 exactly if all of
its lines are (`Writes.exists_decoded`, `Writes.exists_encoded`).
-/

namespace LiveShader.Text

/-! ## What a text was written from -/

section Writes

variable {Item : Type}

/-- A line that no reader takes apart or shortens: no line feed is in it, and no carriage
return is at its end. -/
structure IsLine (feed ret : Item) (line : List Item) : Prop where
  unfed : feed ∉ line
  unreturned : line.getLast? ≠ some ret

/-- The two ways to end a line. -/
inductive Ending (feed ret : Item) : List Item → Prop
  | feed : Ending feed ret [feed]
  | returnFeed : Ending feed ret [ret, feed]

/-- The items are the lines one after the other, each with an ending. -/
inductive Writes (feed ret : Item) : List (List Item) → List Item → Prop
  | nothing : Writes feed ret [] []
  | unended {line : List Item} (isLine : IsLine feed ret line) (nonempty : line ≠ []) :
      Writes feed ret [line] line
  | ended {line ending items : List Item} {lines : List (List Item)}
      (isLine : IsLine feed ret line) (ends : Ending feed ret ending)
      (onward : Writes feed ret lines items) :
      Writes feed ret (line :: lines) (line ++ (ending ++ items))

end Writes

/-- The first of the lines is read up to its ending, which is not a part of it. -/
theorem linesOfPieces_ended {line ending : List Char} (isLine : IsLine '\n' '\r' line)
    (ends : Ending '\n' '\r' ending) (rest : List Char) :
    linesOfPieces (split '\n' (line ++ (ending ++ rest))) =
      line :: linesOfPieces (split '\n' rest) := by
  have later := split_ne_nil '\n' rest
  cases ends with
  | feed =>
    have cut : split '\n' (line ++ (['\n'] ++ rest)) = [line] ++ split '\n' rest :=
      split_append_cons rest isLine.unfed
    rw [cut, linesOfPieces_append later, List.map_singleton, dropReturn_eq_self isLine.unreturned]
    rfl
  | returnFeed =>
    have absent : '\n' ∉ line ++ ['\r'] := by simp [isLine.unfed]
    have cut : split '\n' (line ++ (['\r', '\n'] ++ rest)) =
        [line ++ ['\r']] ++ split '\n' rest := by
      have cutBehind := split_append_cons rest absent
      rwa [List.append_assoc] at cutBehind
    rw [cut, linesOfPieces_append later, List.map_singleton, dropReturn_concat, if_pos rfl]
    rfl

/-- The lines that a text was written from are read from it. -/
theorem Writes.linesOfPieces_eq {lines : List (List Char)} {text : List Char}
    (writes : Writes '\n' '\r' lines text) : linesOfPieces (split '\n' text) = lines := by
  induction writes with
  | nothing => rfl
  | unended isLine nonempty =>
    rw [split_eq_singleton isLine.unfed, linesOfPieces, if_neg nonempty]
  | ended isLine ends onward inductionHypothesis =>
    rw [linesOfPieces_ended isLine ends, inductionHypothesis]

/-- The lines of a text are those that it is written in, however they are ended. -/
theorem Writes.lines_eq {lines : List (List Char)} {text : String}
    (writes : Writes '\n' '\r' lines text.toList) : Text.lines text = lines.map String.ofList := by
  rw [Text.lines, writes.linesOfPieces_eq]

/-- Pieces that were cut at line feeds were written as the lines that are read from them. -/
theorem writes_join_of_pieces {pieces : List (List Char)} (nonempty : pieces ≠ [])
    (unfed : ∀ piece ∈ pieces, '\n' ∉ piece)
    (unreturned : ∀ line ∈ linesOfPieces pieces, line.getLast? ≠ some '\r') :
    Writes '\n' '\r' (linesOfPieces pieces) (join '\n' pieces) := by
  induction pieces with
  | nil => exact absurd rfl nonempty
  | cons piece rest inductionHypothesis =>
    obtain ⟨unfedHere, unfedLater⟩ := List.forall_mem_cons.1 unfed
    cases rest with
    | nil =>
      rw [linesOfPieces] at unreturned ⊢
      split
      · rename_i isEmpty
        rw [isEmpty]
        exact .nothing
      · rename_i isNonempty
        rw [if_neg isNonempty, List.forall_mem_singleton] at unreturned
        exact .unended ⟨unfedHere, unreturned⟩ isNonempty
    | cons next later =>
      rw [linesOfPieces] at unreturned ⊢
      obtain ⟨unreturnedHere, unreturnedLater⟩ := List.forall_mem_cons.1 unreturned
      have onward := inductionHypothesis (List.cons_ne_nil _ _) unfedLater unreturnedLater
      have isLine : IsLine '\n' '\r' (dropReturn piece) :=
        ⟨fun feed => unfedHere (mem_of_mem_dropReturn feed), unreturnedHere⟩
      rw [join]
      -- A carriage return that reading drops is a part of the ending.
      by_cases returns : piece.getLast? = some '\r'
      · obtain ⟨line, rfl⟩ := List.getLast?_eq_some_iff.1 returns
        have whole : (line ++ ['\r']) ++ '\n' :: join '\n' (next :: later) =
            line ++ (['\r', '\n'] ++ join '\n' (next :: later)) := by simp
        rw [dropReturn_concat, if_pos rfl] at isLine ⊢
        rw [whole]
        exact .ended isLine .returnFeed onward
      · rw [dropReturn_eq_self returns] at isLine ⊢
        exact .ended isLine .feed onward

/-- A text was written from the lines that are read from it, if none of these ends in a carriage
return. -/
theorem writes_lines {text : String}
    (unreturned : ∀ line ∈ Text.lines text, line.toList.getLast? ≠ some '\r') :
    Writes '\n' '\r' ((Text.lines text).map String.toList) text.toList := by
  have lines_eq : (Text.lines text).map String.toList = linesOfPieces (split '\n' text.toList) := by
    simp [Text.lines, Function.comp_def]
  have writes := writes_join_of_pieces (split_ne_nil '\n' text.toList)
    (fun piece => not_mem_of_mem_split) (fun line member => by
      rw [← lines_eq] at member
      obtain ⟨source, sourceMember, rfl⟩ := List.mem_map.1 member
      exact unreturned source sourceMember)
  rwa [join_split, ← lines_eq] at writes

/-! ## Bytes -/

/-- The bytes of characters in UTF-8. -/
def encoding (text : List Char) : List UInt8 :=
  text.flatMap String.utf8EncodeChar

@[simp] theorem encoding_nil : encoding [] = [] := rfl

@[simp] theorem encoding_cons (head : Char) (tail : List Char) :
    encoding (head :: tail) = String.utf8EncodeChar head ++ encoding tail := rfl

@[simp] theorem encoding_append (front back : List Char) :
    encoding (front ++ back) = encoding front ++ encoding back :=
  List.flatMap_append

/-- Only the empty text is encoded by no bytes. -/
@[simp] theorem encoding_eq_nil_iff {text : List Char} : encoding text = [] ↔ text = [] := by
  cases text <;> simp

/-- What begins like a character is that character. -/
theorem eq_of_encode_append_eq {first second : Char} {front back : List UInt8}
    (same : String.utf8EncodeChar first ++ front = String.utf8EncodeChar second ++ back) :
    first = second := by
  have decoded := congrArg (fun bytes => ByteArray.utf8DecodeChar? bytes.toByteArray 0) same
  simp only [List.toByteArray_append, ByteArray.utf8DecodeChar?_utf8EncodeChar_append] at decoded
  exact Option.some.inj decoded

/-- A byte that is a character by itself is in no other character. -/
theorem eq_of_mem_encode {byte : UInt8} {character other : Char}
    (single : String.utf8EncodeChar character = [byte])
    (member : byte ∈ String.utf8EncodeChar other) : other = character := by
  -- No byte begins a character and continues one, so this byte is where the other one begins.
  have begins : byte.IsUTF8FirstByte := by
    have first := UInt8.isUTF8FirstByte_getElem_zero_utf8EncodeChar (c := character)
    simpa [single] using first
  obtain ⟨index, short, rfl⟩ := List.mem_iff_getElem.1 member
  obtain rfl := UInt8.isUTF8FirstByte_getElem_utf8EncodeChar.1 begins
  have cut : String.utf8EncodeChar other ++ [] =
      [(String.utf8EncodeChar other)[0]] ++ (String.utf8EncodeChar other).tail := by
    rw [List.append_nil, ← List.head_eq_getElem String.utf8EncodeChar_ne_nil,
      List.singleton_append, List.cons_head_tail]
  rw [← single] at cut
  exact eq_of_encode_append_eq cut

section Single

variable {byte : UInt8} {character : Char}
  (single : String.utf8EncodeChar character = [byte])

include single

/-- Where such a byte is, the characters are cut. -/
theorem exists_of_encoding_eq {text : List Char} {front back : List UInt8}
    (bytes_eq : encoding text = front ++ byte :: back) :
    ∃ front' back', text = front' ++ character :: back' ∧
      encoding front' = front ∧ encoding back' = back := by
  induction text generalizing front with
  | nil => simp at bytes_eq
  | cons head tail inductionHypothesis =>
    rw [encoding_cons] at bytes_eq
    rcases List.append_eq_append_iff.1 bytes_eq with ⟨rest, rfl, tail_eq⟩ | ⟨rest, head_eq, tail_eq⟩
    · -- The byte is behind the first character.
      obtain ⟨front', back', rfl, frontBytes, backBytes⟩ := inductionHypothesis tail_eq
      exact ⟨head :: front', back', rfl, by rw [encoding_cons, frontBytes], backBytes⟩
    · cases rest with
      | nil =>
        rw [List.nil_append] at tail_eq
        have tailBytes : encoding tail = [] ++ byte :: back := tail_eq.symm
        obtain ⟨front', back', rfl, frontBytes, backBytes⟩ := inductionHypothesis tailBytes
        rw [List.append_nil] at head_eq
        refine ⟨head :: front', back', rfl, ?_, backBytes⟩
        rw [encoding_cons, frontBytes, head_eq, List.append_nil]
      | cons first rest =>
        -- The byte is in the first character, which it is.
        obtain ⟨rfl, back_eq⟩ := List.cons.inj tail_eq
        have inHead : byte ∈ String.utf8EncodeChar head := by simp [head_eq]
        obtain rfl := eq_of_mem_encode single inHead
        rw [single] at head_eq
        obtain ⟨rfl, rfl⟩ : front = [] ∧ rest = [] := by
          have lengths := congrArg List.length head_eq
          simp only [List.length_append, List.length_cons, List.length_nil] at lengths
          exact ⟨List.eq_nil_of_length_eq_zero (by omega), List.eq_nil_of_length_eq_zero (by omega)⟩
        exact ⟨[], tail, rfl, rfl, back_eq.symm⟩

/-- A character of one byte is in a text exactly if its byte is in the encoding. -/
theorem mem_encoding_iff {text : List Char} : byte ∈ encoding text ↔ character ∈ text := by
  constructor
  · intro member
    obtain ⟨other, otherMember, here⟩ := List.mem_flatMap.1 member
    rwa [← eq_of_mem_encode single here]
  · intro member
    exact List.mem_flatMap.2 ⟨character, member, by simp [single]⟩

/-- A text ends in a character of one byte exactly if its encoding ends in that byte. -/
theorem getLast?_encoding_iff {text : List Char} :
    (encoding text).getLast? = some byte ↔ text.getLast? = some character := by
  rw [List.getLast?_eq_some_iff, List.getLast?_eq_some_iff]
  constructor
  · rintro ⟨front, bytes_eq⟩
    obtain ⟨front', back', rfl, frontBytes, backBytes⟩ := exists_of_encoding_eq single bytes_eq
    rw [encoding_eq_nil_iff.1 backBytes]
    exact ⟨front', rfl⟩
  · rintro ⟨front, rfl⟩
    exact ⟨encoding front, by simp [single]⟩

end Single

/-- The byte of a line feed. -/
def feedByte : UInt8 := 10

/-- The byte of a carriage return. -/
def returnByte : UInt8 := 13

theorem encode_feed : String.utf8EncodeChar '\n' = [feedByte] := by decide

theorem encode_return : String.utf8EncodeChar '\r' = [returnByte] := by decide

/-- Characters are a line if their bytes are one. -/
theorem isLine_encoding_iff {line : List Char} :
    IsLine feedByte returnByte (encoding line) ↔ IsLine '\n' '\r' line := by
  constructor
  · rintro ⟨unfed, unreturned⟩
    exact ⟨fun feed => unfed ((mem_encoding_iff encode_feed).2 feed),
      fun returns => unreturned ((getLast?_encoding_iff encode_return).2 returns)⟩
  · rintro ⟨unfed, unreturned⟩
    exact ⟨fun feed => unfed ((mem_encoding_iff encode_feed).1 feed),
      fun returns => unreturned ((getLast?_encoding_iff encode_return).1 returns)⟩

/-- An ending of characters is an ending of bytes. -/
theorem Ending.encode {ending : List Char} (ends : Ending '\n' '\r' ending) :
    Ending feedByte returnByte (encoding ending) := by
  cases ends with
  | feed => exact .feed
  | returnFeed => exact .returnFeed

/-- The bytes that end a line encode the characters that do. -/
theorem Ending.exists_encoded {ending : List UInt8} (ends : Ending feedByte returnByte ending) :
    ∃ decoded, encoding decoded = ending ∧ Ending '\n' '\r' decoded := by
  cases ends with
  | feed => exact ⟨_, rfl, .feed⟩
  | returnFeed => exact ⟨_, rfl, .returnFeed⟩

/-- The bytes of a text are written from the bytes of its lines. -/
theorem Writes.encode {lines : List (List Char)} {text : List Char}
    (writes : Writes '\n' '\r' lines text) :
    Writes feedByte returnByte (lines.map encoding) (encoding text) := by
  induction writes with
  | nothing => exact .nothing
  | unended isLine nonempty =>
    exact .unended (isLine_encoding_iff.2 isLine) fun isEmpty =>
      nonempty (encoding_eq_nil_iff.1 isEmpty)
  | ended isLine ends onward inductionHypothesis =>
    rw [encoding_append, encoding_append]
    exact .ended (isLine_encoding_iff.2 isLine) ends.encode inductionHypothesis

/-- Where a text of bytes is UTF-8, its lines are, and the text was written from their
characters. -/
theorem Writes.exists_decoded {lines : List (List UInt8)} {bytes : List UInt8}
    (writes : Writes feedByte returnByte lines bytes) {text : List Char}
    (bytes_eq : encoding text = bytes) :
    ∃ decoded, lines = decoded.map encoding ∧ Writes '\n' '\r' decoded text := by
  induction writes generalizing text with
  | nothing =>
    rw [encoding_eq_nil_iff.1 bytes_eq]
    exact ⟨[], rfl, .nothing⟩
  | unended isLine nonempty =>
    subst bytes_eq
    exact ⟨[text], rfl, .unended (isLine_encoding_iff.1 isLine) fun isEmpty =>
      nonempty (encoding_eq_nil_iff.2 isEmpty)⟩
  | ended isLine ends onward inductionHypothesis =>
    cases ends with
    | feed =>
      obtain ⟨line, rest, rfl, rfl, restBytes⟩ := exists_of_encoding_eq encode_feed bytes_eq
      obtain ⟨decoded, rfl, later⟩ := inductionHypothesis restBytes
      exact ⟨line :: decoded, rfl, .ended (isLine_encoding_iff.1 isLine) .feed later⟩
    | returnFeed =>
      obtain ⟨line, behind, rfl, rfl, behindBytes⟩ := exists_of_encoding_eq encode_return bytes_eq
      have feedNext : encoding behind = [] ++ feedByte :: _ := behindBytes
      obtain ⟨nothing, rest, rfl, nothingBytes, restBytes⟩ :=
        exists_of_encoding_eq encode_feed feedNext
      obtain rfl := encoding_eq_nil_iff.1 nothingBytes
      obtain ⟨decoded, rfl, later⟩ := inductionHypothesis restBytes
      exact ⟨line :: decoded, rfl, .ended (isLine_encoding_iff.1 isLine) .returnFeed later⟩

/-- Where the lines are UTF-8, the whole text is. -/
theorem Writes.exists_encoded {decoded : List (List Char)} {bytes : List UInt8}
    (writes : Writes feedByte returnByte (decoded.map encoding) bytes) :
    ∃ text, encoding text = bytes ∧ Writes '\n' '\r' decoded text := by
  induction decoded generalizing bytes with
  | nil =>
    cases writes with
    | nothing => exact ⟨[], rfl, .nothing⟩
  | cons line decoded inductionHypothesis =>
    rw [List.map_cons] at writes
    generalize lines_eq : decoded.map encoding = lines at writes
    cases writes with
    | unended isLine nonempty =>
      rw [List.map_eq_nil_iff.1 lines_eq]
      exact ⟨line, rfl, .unended (isLine_encoding_iff.1 isLine) fun isEmpty =>
        nonempty (encoding_eq_nil_iff.2 isEmpty)⟩
    | ended isLine ends onward =>
      subst lines_eq
      obtain ⟨ending, rfl, decodedEnds⟩ := ends.exists_encoded
      obtain ⟨rest, rfl, later⟩ := inductionHypothesis onward
      exact ⟨line ++ (ending ++ rest), by simp,
        .ended (isLine_encoding_iff.1 isLine) decodedEnds later⟩

end LiveShader.Text
