import Combinations.Proofs.Text.Bytes
import Combinations.Proofs.Text.Sink
import Mathlib.Tactic.FinCases

/-!
# Reading a text back

A line is its number, opening, items and closing one behind the other, with nothing in between that
could not be part of one of them.  Still there is only one list of records behind a text
(`TextStyle.written_unambiguous`), as long as the items are set apart by a single character that none of
them holds, and what ends a line is neither in an item nor in a text of the style.

The argument goes from the outside to the inside:

* What ends a line is nowhere else in it, so the text falls apart into its lines
  (`eq_of_flatMap_append`).
* The number ends at the first space, since a space is no digit (`numberChars_append_inj`).
* The opening and the closing are the same in all lines and can be taken off, whatever they hold.
* What is left are the items, which fall apart at the delimiter (`items_inj`).

A line without items looks like one with a single empty item, and a number could as well be the front
of an opening.  Therefore the records are to have items, and to have numbers all or none.
-/

set_option autoImplicit false

namespace Combinations

/-! ## Lists that fall apart -/

section Lists

variable {α β : Type}

/-- Where an element is first met, a list falls into what is before and what is behind it. -/
theorem append_cons_inj {x : α} {front front' back back' : List α} (hfront : x ∉ front)
    (hfront' : x ∉ front') (h : front ++ x :: back = front' ++ x :: back') :
    front = front' ∧ back = back' := by
  induction front generalizing front' with
  | nil =>
    cases front' with
    | nil => exact ⟨rfl, (List.cons.inj h).2⟩
    | cons y rest => exact absurd ((List.cons.inj h).1 ▸ List.mem_cons_self) hfront'
  | cons y rest ih =>
    cases front' with
    | nil => exact absurd ((List.cons.inj h).1 ▸ List.mem_cons_self) hfront
    | cons z rest' =>
      obtain ⟨rfl, htail⟩ := List.cons.inj h
      obtain ⟨rfl, hback⟩ := ih (List.not_mem_of_not_mem_cons hfront)
        (List.not_mem_of_not_mem_cons hfront') htail
      exact ⟨rfl, hback⟩

/-- **Parts that each end with what is nowhere else in them can be told apart.** -/
theorem eq_of_flatMap_append {f : β → List α} {x : α} {as bs : List β}
    (ha : ∀ a ∈ as, x ∉ f a) (hb : ∀ b ∈ bs, x ∉ f b)
    (hf : ∀ a ∈ as, ∀ b ∈ bs, f a = f b → a = b)
    (h : as.flatMap (f · ++ [x]) = bs.flatMap (f · ++ [x])) : as = bs := by
  induction as generalizing bs with
  | nil =>
    cases bs with
    | nil => rfl
    | cons b rest => simp at h
  | cons a as ih =>
    cases bs with
    | nil => simp at h
    | cons b bs =>
      simp only [List.flatMap_cons, List.append_assoc, List.singleton_append] at h
      rw [List.forall_mem_cons] at ha hb
      obtain ⟨hhead, htail⟩ := append_cons_inj ha.1 hb.1 h
      rw [hf a List.mem_cons_self b List.mem_cons_self hhead,
        ih ha.2 hb.2 (fun a ha b hb ↦ hf a (List.mem_cons_of_mem _ ha) b (List.mem_cons_of_mem _ hb))
          htail]

theorem count_flatMap_append [BEq α] [LawfulBEq α] {f : β → List α} {x : α} {as : List β}
    (ha : ∀ a ∈ as, x ∉ f a) : (as.flatMap (f · ++ [x])).count x = as.length := by
  induction as with
  | nil => rfl
  | cons a as ih =>
    rw [List.forall_mem_cons] at ha
    rw [List.flatMap_cons, List.count_append, List.count_append, List.count_singleton_self,
      List.count_eq_zero_of_not_mem ha.1, ih ha.2, List.length_cons]
    omega

theorem notMem_intercalate {x : α} {separator : List α} {parts : List (List α)}
    (hseparator : x ∉ separator) (hparts : ∀ part ∈ parts, x ∉ part) :
    x ∉ separator.intercalate parts := by
  induction parts with
  | nil => exact List.not_mem_nil
  | cons part rest ih =>
    rw [List.forall_mem_cons] at hparts
    cases rest with
    | nil => simpa using hparts.1
    | cons next rest =>
      rw [List.intercalate_cons_cons, List.mem_append, List.mem_append]
      rintro ((hpart | hsep) | hrest)
      · exact hparts.1 hpart
      · exact hseparator hsep
      · exact ih hparts.2 hrest

end Lists

/-! ## Styles and records that can be told apart -/

namespace TextStyle

/-- The byte that ends a line. -/
def lineEndByte (style : TextStyle) : UInt8 := if style.nulTerminate then 0 else 10

/-- The character that ends a line. -/
def lineEnd (style : TextStyle) : Char := if style.nulTerminate then '\x00' else '\n'

theorem toUInt8_lineEnd (style : TextStyle) : style.lineEnd.toUInt8 = style.lineEndByte := by
  rw [lineEnd, lineEndByte]
  split <;> rfl

theorem lineEnd_cases (style : TextStyle) : style.lineEnd = '\x00' ∨ style.lineEnd = '\n' := by
  rw [lineEnd]
  split
  · exact .inl rfl
  · exact .inr rfl

theorem lineEnd_lt (style : TextStyle) : style.lineEnd.toNat < 128 := by
  rcases style.lineEnd_cases with h | h <;> rw [h] <;> decide

theorem lineEndByte_mem_iff (style : TextStyle) (text : String) :
    style.lineEndByte ∈ bytesOf text ↔ style.lineEnd ∈ text.toList := by
  rw [← toUInt8_lineEnd, mem_bytesOf style.lineEnd_lt]

theorem toList_terminator (style : TextStyle) : style.terminator.toList = [style.lineEnd] := by
  rw [terminator, lineEnd]
  split <;> rfl

/-- The style sets its items apart by the character `delimiter`, and none of its texts holds the byte
that ends a line. -/
structure Separates (style : TextStyle) (delimiter : Char) : Prop where
  delimiter_eq : style.delimiter = String.singleton delimiter
  delimiter_free : style.lineEndByte ∉ bytesOf style.delimiter
  opening_free : ∀ text ∈ style.opening, style.lineEndByte ∉ bytesOf text
  closing_free : ∀ text ∈ style.closing, style.lineEndByte ∉ bytesOf text

/-- The record has items, and none of them holds the delimiter or the byte that ends a line. -/
structure Admits (style : TextStyle) (delimiter : Char) (record : Record) : Prop where
  items_ne_nil : record.items ≠ []
  delimiter_free : ∀ item ∈ record.items, delimiter ∉ item.toList
  lineEnd_free : ∀ item ∈ record.items, style.lineEndByte ∉ bytesOf item

/-! ## Lines -/

/-- The characters of the number of a record, with the space behind it. -/
def numberChars : Option Nat → List Char
  | some n => (toString n).toList ++ [' ']
  | none => []

/-- The characters of a line without the one that ends it. -/
def body (style : TextStyle) (record : Record) : List Char :=
  numberChars record.number ++ ((style.opening.getD "").toList ++
    (style.delimiter.toList.intercalate (record.items.map String.toList) ++
      (style.closing.getD "").toList))

theorem toList_render (style : TextStyle) (record : Record) :
    (style.render record).toList = style.body record ++ [style.lineEnd] := by
  rcases record with ⟨_ | n, items⟩ <;>
    simp [render, body, numberChars, toList_terminator]

variable {style : TextStyle} {delimiter : Char} {record : Record}

theorem isDigit_of_mem_toString {n : Nat} {c : Char} (h : c ∈ (toString n).toList) :
    c.isDigit := by
  have hdigits : c ∈ Nat.toDigits 10 n := by rwa [← Nat.toList_repr]
  exact Nat.isDigit_of_mem_toDigits (by decide) (by decide) hdigits

/-- A number is written with digits and a space. -/
theorem lineEnd_notMem_numberChars (style : TextStyle) (number : Option Nat) :
    style.lineEnd ∉ numberChars number := by
  have hdigit : style.lineEnd.isDigit = false ∧ style.lineEnd ≠ ' ' := by
    rcases style.lineEnd_cases with h | h <;> rw [h] <;> decide
  cases number with
  | none => exact List.not_mem_nil
  | some n =>
    rw [numberChars, List.mem_append, List.mem_singleton]
    rintro (hmem | hspace)
    · rw [isDigit_of_mem_toString hmem] at hdigit
      exact absurd hdigit.1 (by decide)
    · exact hdigit.2 hspace

theorem lineEnd_notMem_getD {text : Option String}
    (h : ∀ t ∈ text, style.lineEndByte ∉ bytesOf t) : style.lineEnd ∉ (text.getD "").toList := by
  cases text with
  | none => exact List.not_mem_nil
  | some t =>
    rw [← lineEndByte_mem_iff]
    exact h t rfl

/-- **What ends a line is nowhere else in it.** -/
theorem lineEnd_notMem_body (hstyle : style.Separates delimiter)
    (hrecord : style.Admits delimiter record) : style.lineEnd ∉ style.body record := by
  have hdelimiter : style.lineEnd ∉ style.delimiter.toList := by
    rw [← lineEndByte_mem_iff]
    exact hstyle.delimiter_free
  have hitems : ∀ part ∈ record.items.map String.toList, style.lineEnd ∉ part := by
    intro part hpart
    obtain ⟨item, hitem, rfl⟩ := List.mem_map.mp hpart
    rw [← lineEndByte_mem_iff]
    exact hrecord.lineEnd_free item hitem
  simp only [body, List.mem_append, not_or]
  exact ⟨lineEnd_notMem_numberChars style record.number, lineEnd_notMem_getD hstyle.opening_free,
    notMem_intercalate hdelimiter hitems, lineEnd_notMem_getD hstyle.closing_free⟩

/-- Numbers end at the first space. -/
theorem numberChars_append_inj {number number' : Option Nat} {rest rest' : List Char}
    (hsome : number.isSome = number'.isSome)
    (h : numberChars number ++ rest = numberChars number' ++ rest') :
    number = number' ∧ rest = rest' := by
  have hspace : ∀ n : Nat, ' ' ∉ (toString n).toList :=
    fun n hmem ↦ absurd (isDigit_of_mem_toString hmem) (by decide)
  rcases number with _ | n <;> rcases number' with _ | m
  · exact ⟨rfl, h⟩
  · cases hsome
  · cases hsome
  · simp only [numberChars, List.append_assoc, List.singleton_append] at h
    obtain ⟨hdigits, hrest⟩ := append_cons_inj (hspace n) (hspace m) h
    exact ⟨congrArg some (repr_inj.mp (String.toList_inj.mp hdigits)), hrest⟩

/-- Items fall apart at the delimiter. -/
theorem items_inj {items items' : List String} (hne : items ≠ []) (hne' : items' ≠ [])
    (hfree : ∀ item ∈ items, delimiter ∉ item.toList)
    (hfree' : ∀ item ∈ items', delimiter ∉ item.toList)
    (h : [delimiter].intercalate (items.map String.toList) =
      [delimiter].intercalate (items'.map String.toList)) : items = items' := by
  have hsplit : ∀ {items : List String}, items ≠ [] → (∀ item ∈ items, delimiter ∉ item.toList) →
      ([delimiter].intercalate (items.map String.toList)).splitOn delimiter =
        items.map String.toList :=
    fun hne hfree ↦ List.splitOn_intercalate delimiter
      (List.forall_mem_map.mpr hfree) (mt List.map_eq_nil_iff.mp hne)
  have hmap : items.map String.toList = items'.map String.toList := by
    rw [← hsplit hne hfree, h, hsplit hne' hfree']
  exact List.map_injective_iff.mpr (fun _ _ ↦ String.toList_inj.mp) hmap

/-- **A line has one record behind it.** -/
theorem body_inj {x y : Record} (hstyle : style.Separates delimiter)
    (hx : style.Admits delimiter x) (hy : style.Admits delimiter y)
    (hsome : x.number.isSome = y.number.isSome) (h : style.body x = style.body y) : x = y := by
  obtain ⟨hnumber, hrest⟩ := numberChars_append_inj hsome h
  have hdelimiter : style.delimiter.toList = [delimiter] := by
    rw [hstyle.delimiter_eq, String.toList_singleton]
  have hitems := List.append_cancel_right (List.append_cancel_left hrest)
  rw [hdelimiter] at hitems
  rcases x with ⟨number, items⟩
  rcases y with ⟨number', items'⟩
  rw [Record.mk.injEq]
  exact ⟨hnumber, items_inj hx.items_ne_nil hy.items_ne_nil hx.delimiter_free hy.delimiter_free
    hitems⟩

/-! ## Texts -/

/-- What a text sink in a style has handed to a device without a bound once it was called with
records and finished. -/
def written (style : TextStyle) (records : List Record) : ByteArray :=
  (TextSink.sink.visitAll (.new style (.new none false)) records).1.finish.1.accepted

theorem written_eq (style : TextStyle) (records : List Record) :
    style.written records = style.text records := by
  have hholds : ∀ size, (Device.new none false).Holds size := fun _ _ hn ↦ by cases hn
  rcases (TextSink.sound_new style (hholds _)).visitAll records with
    ⟨-, hsound⟩ | ⟨-, n, hspoiled⟩
  · rw [written, hsound.finish_of_holds (hholds _)]
    exact ByteArray.empty_append
  · cases hspoiled.full.capacity_eq

theorem toList_join_render (style : TextStyle) (records : List Record) :
    (String.join (records.map style.render)).toList =
      records.flatMap (style.body · ++ [style.lineEnd]) := by
  rw [String.toList_join, List.flatMap_map]
  simp only [toList_render]

/-- **A text has one list of records behind it, with as many records as the text has lines.** -/
theorem written_unambiguous (hstyle : style.Separates delimiter) {xs ys : List Record}
    (hadmits : ∀ record ∈ xs ++ ys, style.Admits delimiter record)
    (hnumbers : (∀ record ∈ xs ++ ys, record.number.isSome) ∨
      ∀ record ∈ xs ++ ys, record.number.isNone) :
    (style.written xs = style.written ys → xs = ys) ∧
      (style.written xs).data.toList.count style.lineEndByte = xs.length := by
  have hxs : ∀ x ∈ xs, style.Admits delimiter x :=
    fun x hx ↦ hadmits x (List.mem_append_left ys hx)
  have hys : ∀ y ∈ ys, style.Admits delimiter y :=
    fun y hy ↦ hadmits y (List.mem_append_right xs hy)
  have hfree : ∀ x ∈ xs, style.lineEnd ∉ style.body x :=
    fun x hx ↦ lineEnd_notMem_body hstyle (hxs x hx)
  constructor
  · intro h
    rw [written_eq, written_eq, text, text, String.toUTF8_eq_toByteArray,
      String.toUTF8_eq_toByteArray, String.toByteArray_inj, ← String.toList_inj,
      toList_join_render, toList_join_render] at h
    refine eq_of_flatMap_append hfree (fun y hy ↦ lineEnd_notMem_body hstyle (hys y hy)) ?_ h
    intro x hx y hy hbody
    refine body_inj hstyle (hxs x hx) (hys y hy) ?_ hbody
    rcases hnumbers with hall | hall
    · rw [hall x (List.mem_append_left ys hx), hall y (List.mem_append_right xs hy)]
    · rw [Option.isNone_iff_eq_none.mp (hall x (List.mem_append_left ys hx)),
        Option.isNone_iff_eq_none.mp (hall y (List.mem_append_right xs hy))]
  · rw [written_eq, text, ← bytesOf, ← toUInt8_lineEnd, count_bytesOf style.lineEnd_lt,
      toList_join_render, count_flatMap_append hfree]

/-- Lines that open with what could be the end of a number, and that differ in one space. -/
theorem written_unambiguous_of_spaces :
    let style : TextStyle := ⟨" ", some "1 ", some " \n", true⟩
    let xs : List Record := [⟨some 1, ["", "a"]⟩, ⟨some 11, ["b"]⟩]
    let ys : List Record := [⟨some 1, ["a"]⟩, ⟨some 11, ["", "b"]⟩]
    style.Separates ' ' ∧ (∀ record ∈ xs ++ ys, style.Admits ' ' record) ∧
      style.written xs ≠ style.written ys ∧
      (style.written xs).data.toList.count 0 = 2 := by
  intro style xs ys
  have hstyle : style.Separates ' ' := ⟨rfl, by decide, by decide, by decide⟩
  have hadmits : ∀ record ∈ xs ++ ys, style.Admits ' ' record := by
    intro record hrecord
    fin_cases hrecord <;> exact ⟨by decide, by decide, by decide⟩
  obtain ⟨hinj, hcount⟩ := written_unambiguous hstyle hadmits (.inl (by decide))
  exact ⟨hstyle, hadmits, mt hinj (by decide), hcount⟩

end TextStyle
end Combinations
