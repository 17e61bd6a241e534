import JitHost.Text.Bytes
import JitHost.Text.Lines
import Mathlib.Data.List.DropRight

/-!
# The places of lines

A text is cut after its line feeds (`Cut`), and the lines are its pieces one after another
(`SegmentAt`), each without the line feeds and carriage returns at its end (`Trimmed`). The place of
a line in bytes is the sum of the pieces before it (`spanFrom?_succ`), so the places of lines do not
overlap, and of all bytes only line feeds and carriage returns lie outside of them
(`lines_partition`).
-/

namespace JitHost.Text

/-! ## Bytes of characters -/

namespace Bytes

/-- The bytes of some characters, one after another. -/
def ofChars (text : List Char) : Bytes := text.flatMap String.utf8EncodeChar

theorem ofText_eq_ofChars (text : String) : ofText text = ofChars text.toList := by
  obtain ⟨chars, rfl⟩ := text.exists_eq_ofList
  simp [ofText, ofChars, List.utf8Encode]

@[simp] theorem ofChars_append (front back : List Char) :
    ofChars (front ++ back) = ofChars front ++ ofChars back := List.flatMap_append

/-- A byte from 128 on stays one when more bits are set. -/
theorem le_or {share mark : UInt8} (h : 0x80 ≤ mark) : 0x80 ≤ share ||| mark := by
  rw [UInt8.le_iff_toNat_le] at h ⊢
  rw [UInt8.toNat_or]
  exact Nat.le_trans h Nat.right_le_or

/-- A byte below 128 is the whole of its character. -/
theorem eq_ofUInt8_of_mem {c : Char} {byte : UInt8} (h : byte ∈ String.utf8EncodeChar c)
    (hsmall : byte < 0x80) : c = Char.ofUInt8 byte := by
  -- All bytes of a longer character carry a mark above that.
  have hmark : ∀ share mark : UInt8, 0x80 ≤ mark → byte ≠ share ||| mark := by
    rintro share mark hle rfl
    exact UInt8.not_lt.2 (le_or hle) hsmall
  rcases Char.utf8Size_eq c with hsize | hsize | hsize | hsize
  · rw [String.utf8EncodeChar_eq_singleton hsize, List.mem_singleton] at h
    subst h
    have hval : c.val.toNat ≤ 127 := by
      simpa [UInt32.le_iff_toNat_le] using Char.utf8Size_eq_one_iff.1 hsize
    apply Char.ext
    apply UInt32.toNat.inj
    change c.val.toNat = c.val.toUInt8.toUInt32.toNat
    rw [UInt8.toNat_toUInt32, UInt32.toNat_toUInt8]
    omega
  · rw [String.utf8EncodeChar_eq_cons_cons hsize] at h
    simp [hmark] at h
  · rw [String.utf8EncodeChar_eq_cons_cons_cons hsize] at h
    simp [hmark] at h
  · rw [String.utf8EncodeChar_eq_cons_cons_cons_cons hsize] at h
    simp [hmark] at h

theorem utf8EncodeChar_feed : String.utf8EncodeChar '\n' = [0x0A] := by decide

theorem utf8EncodeChar_return : String.utf8EncodeChar '\r' = [0x0D] := by decide

theorem exists_mem_of_mem_ofChars {text : List Char} {byte : UInt8} (h : byte ∈ ofChars text) :
    ∃ c ∈ text, byte ∈ String.utf8EncodeChar c := List.mem_flatMap.1 h

/-- The last byte of some characters is one of the last character. -/
theorem exists_getLast?_of_getLast?_ofChars {text : List Char} {byte : UInt8}
    (h : (ofChars text).getLast? = some byte) :
    ∃ c, text.getLast? = some c ∧ byte ∈ String.utf8EncodeChar c := by
  rcases List.eq_nil_or_concat text with rfl | ⟨front, c, rfl⟩
  · simp [ofChars] at h
  · refine ⟨c, by simp, ?_⟩
    have hlast : (String.utf8EncodeChar c).getLast? = some byte := by
      simpa [ofChars, List.getLast?_append, String.utf8EncodeChar_ne_nil] using h
    exact List.mem_of_getLast? hlast

theorem feed_not_mem_ofChars {text : List Char} (h : '\n' ∉ text) : 0x0A ∉ ofChars text := by
  intro hmem
  obtain ⟨c, hc, hfeed⟩ := exists_mem_of_mem_ofChars hmem
  have heq : c = '\n' := eq_ofUInt8_of_mem hfeed (by decide)
  exact h (heq ▸ hc)

theorem getLast?_ofChars_ne_return {text : List Char} (h : text.getLast? ≠ some '\r') :
    (ofChars text).getLast? ≠ some 0x0D := by
  intro hlast
  obtain ⟨c, hc, hreturn⟩ := exists_getLast?_of_getLast?_ofChars hlast
  have heq : c = '\r' := eq_ofUInt8_of_mem hreturn (by decide)
  exact h (heq ▸ hc)

end Bytes

@[simp] theorem byteLength_cons (c : Char) (text : List Char) :
    byteLength (c :: text) = c.utf8Size + byteLength text := by
  have hshift : ∀ (text : List Char) (size : Nat),
      text.foldl (fun size c => size + c.utf8Size) size = size + byteLength text := by
    intro text
    induction text with
    | nil => intro size; rfl
    | cons c text ih =>
      intro size
      rw [byteLength, List.foldl_cons, List.foldl_cons, ih, ih]
      omega
  rw [byteLength, List.foldl_cons, hshift]
  omega

@[simp] theorem length_ofChars (text : List Char) :
    (Bytes.ofChars text).length = byteLength text := by
  induction text with
  | nil => rfl
  | cons c text ih =>
    rw [byteLength_cons, ← ih]
    simp [Bytes.ofChars]

@[simp] theorem byteLength_append (front back : List Char) :
    byteLength (front ++ back) = byteLength front + byteLength back := by
  rw [← length_ofChars, Bytes.ofChars_append, List.length_append, length_ofChars, length_ofChars]

/-! ## Pieces -/

/-- How a text is cut: after each of its line feeds. -/
inductive Cut : List Char → List (List Char) → Prop where
  | nil : Cut [] []
  /-- What is left after the last line feed is the last piece. -/
  | rest {piece : List Char} (hne : piece ≠ []) (hfeed : '\n' ∉ piece) : Cut piece [piece]
  | line {body text : List Char} {pieces : List (List Char)} (hfeed : '\n' ∉ body)
      (h : Cut text pieces) : Cut (body ++ '\n' :: text) ((body ++ ['\n']) :: pieces)

/-- The number of lines of a text: one for each line feed, and one more if something is left after
the last of them. -/
def lineCount (text : List Char) : Nat :=
  text.count '\n' + if text.rtakeWhile (· ≠ '\n') = [] then 0 else 1

theorem lineCount_of_no_feed {piece : List Char} (hne : piece ≠ []) (hfeed : '\n' ∉ piece) :
    lineCount piece = 1 := by
  have hall : piece.rtakeWhile (· ≠ '\n') = piece := by
    rw [List.rtakeWhile_eq_self_iff]
    intro c hc
    exact decide_eq_true fun heq => hfeed (heq ▸ hc)
  rw [lineCount, hall, if_neg hne, List.count_eq_zero_of_not_mem hfeed]

theorem lineCount_line {body : List Char} (hfeed : '\n' ∉ body) (text : List Char) :
    lineCount (body ++ '\n' :: text) = lineCount text + 1 := by
  -- What is left after the last line feed does not reach back to this one.
  have hleft : (body ++ '\n' :: text).rtakeWhile (· ≠ '\n') = text.rtakeWhile (· ≠ '\n') := by
    rw [List.rtakeWhile, List.reverse_append, List.reverse_cons, List.append_assoc,
      List.takeWhile_append, List.rtakeWhile]
    split
    · rename_i hwhole
      rw [(List.takeWhile_prefix _).eq_of_length hwhole]
      simp
    · rfl
  rw [lineCount, hleft, lineCount, List.count_append, List.count_cons_self,
    List.count_eq_zero_of_not_mem hfeed]
  omega

/-- A line of a text with the line feed that ends it, and what stands before and after it. -/
structure SegmentAt (text : List Char) (line : Nat) (before segment after : List Char) : Prop where
  text_eq : text = before ++ segment ++ after
  /-- The lines before it end in line feeds, and there are as many as the number says. -/
  begins : before = [] ∨ before.getLast? = some '\n'
  line_eq : line = before.count '\n' + 1
  /-- It ends with the next line feed, or with the text if there is none. -/
  ends : (∃ body, '\n' ∉ body ∧ segment = body ++ ['\n']) ∨
    segment ≠ [] ∧ '\n' ∉ segment ∧ after = []

namespace Cut

variable {text : List Char} {pieces : List (List Char)}

theorem eq_nil (h : Cut text []) : text = [] := by
  cases h with
  | nil => rfl

/-- A character that is no line feed belongs to the first piece. -/
theorem cons {c : Char} {piece : List Char} (hc : c ≠ '\n') (h : Cut text (piece :: pieces)) :
    Cut (c :: text) ((c :: piece) :: pieces) := by
  cases h with
  | rest hne hfeed => exact .rest (List.cons_ne_nil c _) (by simp [hfeed, Ne.symm hc])
  | @line body text _ hfeed h =>
    have hbody : '\n' ∉ c :: body := by simp [hfeed, Ne.symm hc]
    exact .line hbody h

theorem flatten_eq (h : Cut text pieces) : pieces.flatten = text := by
  induction h with
  | nil => rfl
  | rest hne hfeed => simp
  | line hfeed h ih => simp [ih]

theorem length_eq (h : Cut text pieces) : pieces.length = lineCount text := by
  induction h with
  | nil => rfl
  | rest hne hfeed => exact (lineCount_of_no_feed hne hfeed).symm
  | line hfeed h ih => rw [List.length_cons, ih, lineCount_line hfeed]

/-- The pieces are the lines. -/
theorem segmentAt (h : Cut text pieces) {index : Nat} {piece : List Char}
    (hpiece : pieces[index]? = some piece) :
    SegmentAt text (index + 1) (pieces.take index).flatten piece
      (pieces.drop (index + 1)).flatten := by
  -- Along the cut: a later line is one of the text behind the first line feed, with one more before
  -- it.
  induction h generalizing index with
  | nil => simp at hpiece
  | @rest whole hne hfeed =>
    obtain ⟨rfl, rfl⟩ : index = 0 ∧ whole = piece := by
      simpa [List.getElem?_singleton] using hpiece
    exact ⟨by simp, .inl rfl, rfl, .inr ⟨hne, hfeed, rfl⟩⟩
  | @line body text pieces hfeed h ih =>
    cases index with
    | zero =>
      obtain rfl : body ++ ['\n'] = piece := by simpa using hpiece
      refine ⟨?_, .inl rfl, rfl, .inl ⟨body, hfeed, rfl⟩⟩
      simp [h.flatten_eq]
    | succ index =>
      have hlater := ih (by simpa using hpiece)
      refine ⟨?_, .inr ?_, ?_, hlater.ends⟩
      · simp [hlater.text_eq]
      · rcases hlater.begins with hnil | hlast
        · simp [hnil]
        · simp [List.getLast?_cons, hlast]
      · have hcount := hlater.line_eq
        simp [List.count_eq_zero_of_not_mem hfeed]
        omega

end Cut

theorem cut_pieces (text : List Char) : Cut text (pieces text) := by
  induction text with
  | nil => exact .nil
  | cons c text ih =>
    rw [pieces]
    by_cases hc : c = '\n'
    · rw [if_pos hc, hc]
      have hbody : '\n' ∉ ([] : List Char) := List.not_mem_nil
      exact .line hbody ih
    · rw [if_neg hc]
      cases hpieces : pieces text with
      | nil =>
        rw [hpieces] at ih
        rw [ih.eq_nil]
        exact .rest (List.cons_ne_nil c []) (by simp [Ne.symm hc])
      | cons piece others =>
        rw [hpieces] at ih
        exact ih.cons hc

/-! ## Line ends -/

/-- A line without the line feeds and carriage returns at its end. -/
structure Trimmed (segment content ending : List Char) : Prop where
  segment_eq : segment = content ++ ending
  ending : ∀ c ∈ ending, c = '\n' ∨ c = '\r'
  content : ∀ c, content.getLast? = some c → c ≠ '\n' ∧ c ≠ '\r'

theorem isLineEnd_iff {c : Char} : isLineEnd c = true ↔ c = '\n' ∨ c = '\r' := by
  simp [isLineEnd]

theorem trimmed_dropLastWhile (segment : List Char) :
    Trimmed segment (dropLastWhile isLineEnd segment) (segment.rtakeWhile isLineEnd) where
  segment_eq := List.rdropWhile_append_rtakeWhile.symm
  ending := fun c hc => isLineEnd_iff.1 (List.mem_rtakeWhile_imp hc)
  content := by
    intro c hlast
    have hrest : (segment.rdropWhile isLineEnd).getLast? = some c := hlast
    have hne : segment.rdropWhile isLineEnd ≠ [] := by
      intro hnil
      rw [hnil] at hrest
      cases hrest
    have hnot := List.rdropWhile_last_not isLineEnd segment hne
    rw [List.getLast?_eq_some_getLast hne, Option.some.injEq] at hrest
    rw [hrest, isLineEnd_iff] at hnot
    exact not_or.1 hnot

/-- What a line has beyond its content is line feeds and carriage returns. -/
theorem Trimmed.lt_of_byte {segment content ending : List Char} {place : Nat} {byte : UInt8}
    (htrim : Trimmed segment content ending)
    (hbyte : (Bytes.ofChars segment)[place]? = some byte) (hfeed : byte ≠ 0x0A)
    (hreturn : byte ≠ 0x0D) : place < byteLength content := by
  by_contra hoff
  rw [htrim.segment_eq, Bytes.ofChars_append, List.getElem?_append_right (by simpa using hoff)]
    at hbyte
  obtain ⟨c, hc, hmem⟩ := Bytes.exists_mem_of_mem_ofChars (List.mem_of_getElem? hbyte)
  rcases htrim.ending c hc with rfl | rfl
  · rw [Bytes.utf8EncodeChar_feed, List.mem_singleton] at hmem
    exact hfeed hmem
  · rw [Bytes.utf8EncodeChar_return, List.mem_singleton] at hmem
    exact hreturn hmem

/-- A line has no line feed but the last character. -/
theorem SegmentAt.no_feed {text before segment after content ending : List Char} {line : Nat}
    (h : SegmentAt text line before segment after) (htrim : Trimmed segment content ending) :
    '\n' ∉ content := by
  intro hmem
  rcases h.ends with ⟨body, hbody, hsegment⟩ | ⟨-, hnone, -⟩
  · -- The only line feed is the last character of the line, which is not one of the content.
    rcases List.eq_nil_or_concat ending with rfl | ⟨front, c, rfl⟩
    · have hlast : content.getLast? = some '\n' := by
        rw [← List.append_nil content, ← htrim.segment_eq, hsegment, List.getLast?_concat]
      exact (htrim.content _ hlast).1 rfl
    · have hfront : content ++ front = body := by
        have heq := htrim.segment_eq
        rw [hsegment, List.concat_eq_append, ← List.append_assoc] at heq
        exact (List.append_inj' heq rfl).1.symm
      exact hbody (hfront ▸ List.mem_append_left front hmem)
  · apply hnone
    rw [htrim.segment_eq]
    exact List.mem_append_left ending hmem

/-! ## Places -/

namespace Span

/-- Whether a byte lies within a span. -/
def Covers (span : Span) (place : Nat) : Prop :=
  span.offset ≤ place ∧ place < span.offset + span.length

/-- The bytes of a text within a span. -/
def bytesOf (span : Span) (source : String) : Bytes :=
  ((Bytes.ofText source).drop span.offset).take span.length

end Span

theorem spanFrom?_zero (offset : Nat) (pieces : List (List Char)) :
    spanFrom? offset pieces 0 = none := by
  cases pieces <;> rfl

/-- A line begins where the lines before it end. -/
theorem spanFrom?_succ (offset : Nat) (pieces : List (List Char)) (index : Nat) :
    spanFrom? offset pieces (index + 1) = pieces[index]?.map fun piece =>
      ⟨offset + byteLength (pieces.take index).flatten,
        byteLength (dropLastWhile isLineEnd piece)⟩ := by
  induction pieces generalizing offset index with
  | nil => rfl
  | cons piece others ih =>
    cases index with
    | zero => rfl
    | succ index =>
      rw [spanFrom?, ih]
      simp [Nat.add_assoc]

theorem byteLength_dropLastWhile_le (segment : List Char) :
    byteLength (dropLastWhile isLineEnd segment) ≤ byteLength segment := by
  have hlength := congrArg byteLength (trimmed_dropLastWhile segment).segment_eq
  rw [byteLength_append] at hlength
  omega

/-- A line ends before a later one begins. -/
theorem spanFrom?_ordered {offset line later : Nat} {pieces : List (List Char)} {span other : Span}
    (hlt : line < later) (hspan : spanFrom? offset pieces line = some span)
    (hother : spanFrom? offset pieces later = some other) :
    span.offset + span.length ≤ other.offset := by
  cases line with
  | zero => simp [spanFrom?_zero] at hspan
  | succ index =>
    obtain ⟨next, rfl⟩ : ∃ next, later = next + 1 := ⟨later - 1, by omega⟩
    rw [spanFrom?_succ] at hspan hother
    obtain ⟨piece, hpiece, rfl⟩ := Option.map_eq_some_iff.1 hspan
    obtain ⟨piece', -, rfl⟩ := Option.map_eq_some_iff.1 hother
    -- What comes before the later line begins with all up to the end of this one.
    have hprefix : pieces.take (index + 1) <+: pieces.take next :=
      List.take_prefix_take_left (by omega)
    obtain ⟨between, hbetween⟩ := hprefix
    have hle := byteLength_dropLastWhile_le piece
    rw [← hbetween, List.take_add_one, hpiece]
    simp
    omega

/-- Every byte but a line feed or a carriage return lies in a line. -/
theorem exists_spanFrom?_covers {pieces : List (List Char)} {place : Nat} {byte : UInt8}
    (hbyte : (Bytes.ofChars pieces.flatten)[place]? = some byte) (hfeed : byte ≠ 0x0A)
    (hreturn : byte ≠ 0x0D) (offset : Nat) :
    ∃ line span, spanFrom? offset pieces line = some span ∧ span.Covers (offset + place) := by
  -- The first piece has the byte, or it lies that much further left in the others.
  induction pieces generalizing place offset with
  | nil => simp [Bytes.ofChars] at hbyte
  | cons piece others ih =>
    rw [List.flatten_cons, Bytes.ofChars_append] at hbyte
    by_cases hplace : place < byteLength piece
    · rw [List.getElem?_append_left (by simpa using hplace)] at hbyte
      have hlt := (trimmed_dropLastWhile piece).lt_of_byte hbyte hfeed hreturn
      exact ⟨1, _, rfl, Nat.le_add_right offset place, Nat.add_lt_add_left hlt offset⟩
    · rw [List.getElem?_append_right (by simpa using hplace), length_ofChars] at hbyte
      obtain ⟨line, span, hspan, hcovers⟩ := ih hbyte (offset + byteLength piece)
      cases line with
      | zero => simp [spanFrom?_zero] at hspan
      | succ index =>
        refine ⟨index + 2, span, hspan, ?_⟩
        rwa [Nat.add_assoc, Nat.add_sub_cancel' (Nat.le_of_not_lt hplace)] at hcovers

/-! ## All lines -/

/-- What the place of a line says about a source. -/
structure PlacesLine (source : String) (line : Nat) (span : Span) : Prop where
  /-- It is the place of the line's text, which is all of the line but the line feeds and carriage
  returns at its end. -/
  text : ∃ before segment after content ending,
    SegmentAt source.toList line before segment after ∧ Trimmed segment content ending ∧
      span = ⟨byteLength before, byteLength content⟩ ∧
      span.bytesOf source = Bytes.ofText (String.ofList content)
  /-- It lies within the source, between whole characters. -/
  within : span.offset + span.length ≤ source.utf8ByteSize
  offset_isValid : (⟨span.offset⟩ : String.Pos.Raw).IsValid source
  end_isValid : (⟨span.offset + span.length⟩ : String.Pos.Raw).IsValid source
  /-- No byte of it is a line feed, and the last one is no carriage return. -/
  no_feed : 0x0A ∉ span.bytesOf source
  no_return : (span.bytesOf source).getLast? ≠ some 0x0D

/-- How the places of its lines part a source. -/
structure PartedByLines (source : String) : Prop where
  /-- There are as many lines as line feeds, and one more if something is left after the last. -/
  isSome_iff : ∀ line,
    (lineSpan? source line).isSome = true ↔ 1 ≤ line ∧ line ≤ lineCount source.toList
  places : ∀ line span, lineSpan? source line = some span → PlacesLine source line span
  /-- The lines lie one after another and apart. -/
  ordered : ∀ line later span other, line < later → lineSpan? source line = some span →
    lineSpan? source later = some other → span.offset + span.length ≤ other.offset
  /-- Every byte but a line feed or a carriage return lies in one line and in no other. -/
  covered : ∀ place byte, (Bytes.ofText source)[place]? = some byte → byte ≠ 0x0A → byte ≠ 0x0D →
    ∃! line, ∃ span, lineSpan? source line = some span ∧ span.Covers place

section

variable {source : String} {front back before content rest : List Char}

theorem byteLength_toList (source : String) : byteLength source.toList = source.utf8ByteSize := by
  rw [← length_ofChars, ← Bytes.ofText_eq_ofChars]
  rfl

/-- Whole characters end where they do. -/
theorem isValid_of_append (h : source.toList = front ++ back) :
    (⟨byteLength front⟩ : String.Pos.Raw).IsValid source := by
  rw [String.Pos.Raw.isValid_iff_exists_append]
  refine ⟨String.ofList front, String.ofList back, ?_, ?_⟩
  · rw [← String.ofList_append, ← h, String.ofList_toList]
  · apply String.Pos.Raw.ext
    rw [String.byteIdx_rawEndPos, ← byteLength_toList, String.toList_ofList]

/-- The bytes at the place of some characters are theirs. -/
theorem bytesOf_of_append (h : source.toList = before ++ content ++ rest) :
    (⟨byteLength before, byteLength content⟩ : Span).bytesOf source = Bytes.ofChars content := by
  rw [Span.bytesOf, Bytes.ofText_eq_ofChars, h, List.append_assoc, Bytes.ofChars_append,
    Bytes.ofChars_append]
  simp only [← length_ofChars]
  rw [List.drop_left, List.take_left]

end

theorem placesLine {source : String} {line : Nat} {span : Span}
    (h : lineSpan? source line = some span) : PlacesLine source line span := by
  cases line with
  | zero => simp [lineSpan?, spanFrom?_zero] at h
  | succ index =>
    rw [lineSpan?, spanFrom?_succ, Nat.zero_add] at h
    obtain ⟨segment, hsegment, rfl⟩ := Option.map_eq_some_iff.1 h
    have hline := (cut_pieces source.toList).segmentAt hsegment
    -- Where the four parts of the text come from does not matter any more.
    generalize ((pieces source.toList).take index).flatten = before at hline ⊢
    generalize ((pieces source.toList).drop (index + 1)).flatten = after at hline
    have htrim := trimmed_dropLastWhile segment
    generalize dropLastWhile isLineEnd segment = content at htrim ⊢
    generalize segment.rtakeWhile isLineEnd = ending at htrim
    have hwhole : source.toList = before ++ content ++ (ending ++ after) := by
      rw [hline.text_eq, htrim.segment_eq]
      simp only [List.append_assoc]
    have hbytes := bytesOf_of_append hwhole
    refine ⟨⟨before, segment, after, content, ending, hline, htrim, rfl, ?_⟩, ?_, ?_, ?_, ?_, ?_⟩
    · rw [hbytes, Bytes.ofText_eq_ofChars, String.toList_ofList]
    · rw [← byteLength_toList, hwhole, byteLength_append, byteLength_append]
      exact Nat.le_add_right _ _
    · rw [List.append_assoc] at hwhole
      exact isValid_of_append hwhole
    · rw [← byteLength_append]
      exact isValid_of_append hwhole
    · rw [hbytes]
      exact Bytes.feed_not_mem_ofChars (hline.no_feed htrim)
    · rw [hbytes]
      apply Bytes.getLast?_ofChars_ne_return
      intro hlast
      exact (htrim.content _ hlast).2 rfl

/-- Of two lines with the same byte none comes before the other. -/
theorem not_lt_of_covers {source : String} {line later place : Nat} {span other : Span}
    (hspan : lineSpan? source line = some span) (hother : lineSpan? source later = some other)
    (hcovers : span.Covers place) (hcovers' : other.Covers place) : ¬ line < later := by
  intro hlt
  have hle := spanFrom?_ordered hlt hspan hother
  exact absurd (Nat.lt_of_lt_of_le hcovers.2 hle) (Nat.not_lt_of_le hcovers'.1)

/-- The places of its lines part every source. -/
theorem lines_partition (source : String) : PartedByLines source where
  isSome_iff := by
    intro line
    cases line with
    | zero => simp [lineSpan?, spanFrom?_zero]
    | succ index =>
      rw [lineSpan?, spanFrom?_succ, Option.isSome_map, ← (cut_pieces source.toList).length_eq,
        isSome_getElem?]
      omega
  places := fun line span h => placesLine h
  ordered := fun line later span other hlt hspan hother => spanFrom?_ordered hlt hspan hother
  covered := by
    intro place byte hbyte hfeed hreturn
    rw [Bytes.ofText_eq_ofChars, ← (cut_pieces source.toList).flatten_eq] at hbyte
    obtain ⟨line, span, hspan, hcovers⟩ := exists_spanFrom?_covers hbyte hfeed hreturn 0
    rw [Nat.zero_add] at hcovers
    refine ⟨line, ⟨span, hspan, hcovers⟩, ?_⟩
    rintro other ⟨span', hspan', hcovers'⟩
    have hnot := not_lt_of_covers hspan hspan' hcovers hcovers'
    have hnot' := not_lt_of_covers hspan' hspan hcovers' hcovers
    omega

-- The second of three lines, without its carriage return; a fourth line does not begin.
example : (lineSpan? "one\ntwo\r\nthree\n" 2, lineSpan? "one\ntwo\r\nthree\n" 4) =
    (some ⟨4, 3⟩, none) := by decide

end JitHost.Text
