import Deflatten.Json.Reader
import Deflatten.Json.Writer
import Deflatten.Proofs.Number.Digits
import Mathlib.Data.List.TakeDrop
/-!
# Reading texts and integers back

A text in quotes is read back character by character: each is written as a short escape, as a unit of sixteen bits or as it
is (`Json.codePoints_piece`), and none of them is a surrogate that could be joined with the next (`Json.textTail_quoted`).
The digits of an integer are read back if what follows does not go on with a number (`Json.plainValue_int`); an integer that
is read has few enough digits to be written (`Json.isWritable_of_plainValue`).
-/

namespace Deflatten.Json

/-! ## Texts -/

variable {asciiOnly : Bool} {c : Char} {rest : List Char}

/-- A character that is written as it is or by a short escape, unless it is a control character. -/
def IsPlainChar (asciiOnly : Bool) (c : Char) : Prop := asciiOnly = false ∨ c.toNat ≤ 0x7e

/-- A text of such characters. -/
def IsPlainText (asciiOnly : Bool) (s : String) : Prop := ∀ c ∈ s.toList, IsPlainChar asciiOnly c

theorem isPlainText_of_not_asciiOnly (s : String) : IsPlainText false s := fun _ _ => .inl rfl

theorem toList_unitEscape (unit : Nat) : (unitEscape unit).toList =
    '\\' :: 'u' :: (List.replicate (4 - (Nat.toDigits 16 unit).length) '0' ++ Nat.toDigits 16 unit) := by
  rw [unitEscape, String.toList_append, String.toList_ofList, String.toList_ofList]
  rfl

/-- A control character is written by the unit that it is. -/
theorem unitEscape_control : ∀ n < 0x20,
    List.replicate (4 - (Nat.toDigits 16 n).length) '0' ++ Nat.toDigits 16 n =
        ['0', '0', (n / 16).digitChar, (n % 16).digitChar] ∧
      unit? '0' '0' (n / 16).digitChar (n % 16).digitChar = some n := by
  decide

theorem codePoint_eq_toNat_of_lt {c : Char} (h : c.toNat < 0x20) : Surrogate.codePoint c = c.toNat := by
  rw [Surrogate.codePoint, Surrogate.offset, Nat.sub_eq_zero_of_le (by omega)]
  rfl

theorem codePoints_unit (opening : Nat) {a b c d next : Char} {unit : Nat} (h : unit? a b c d = some unit) :
    codePoints opening ('\\' :: 'u' :: a :: b :: c :: d :: next :: rest) =
      (codePoints opening (next :: rest)).map fun (us, more) => (unit :: us, more) := by
  rw [codePoints, h]

theorem codePoints_control (opening : Nat) (h : c.toNat < 0x20) (hrest : rest ≠ []) :
    codePoints opening ((escapeAsUnits c).toList ++ rest) =
      (codePoints opening rest).map fun (us, more) => (c.toNat :: us, more) := by
  obtain ⟨next, rest, rfl⟩ := List.exists_cons_of_ne_nil hrest
  obtain ⟨hdigits, hunit⟩ := unitEscape_control c.toNat h
  rw [escapeAsUnits, codePoint_eq_toNat_of_lt h, if_pos (by omega), toList_unitEscape, hdigits]
  exact codePoints_unit opening hunit

/-- A character that stands for itself is read as it is. -/
theorem codePoints_self (opening : Nat) (hquote : c ≠ '"') (hescape : c ≠ '\\') (h : ¬c.toNat < 0x20) :
    codePoints opening (c :: rest) = (codePoints opening rest).map fun (us, more) => (c.toNat :: us, more) := by
  rw [codePoints]
  · rw [if_neg h]
  · exact hquote
  · exact fun h _ => hescape h
  · exact fun _ _ _ _ _ _ h _ => hescape h
  · exact fun _ h _ => hescape h
  · exact fun _ _ h _ => hescape h

/-- A character within quotes is read back. What follows ends with the closing quote, so it is not empty. -/
theorem codePoints_piece (opening : Nat) (h : IsPlainChar asciiOnly c) (hrest : rest ≠ []) :
    codePoints opening ((piece asciiOnly c).toList ++ rest) =
      (codePoints opening rest).map fun (us, more) => (c.toNat :: us, more) := by
  unfold piece
  split
  case h_8 hquote hescape _ _ _ _ _ =>
    split
    · rename_i hcontrol
      rw [Bool.or_eq_true, decide_eq_true_iff, Bool.and_eq_true, decide_eq_true_iff] at hcontrol
      refine codePoints_control opening ?_ hrest
      rcases hcontrol with hcontrol | ⟨rfl, hbeyond⟩
      · exact hcontrol
      · rcases h with h | h
        · cases h
        · omega
    · rename_i hplain
      rw [Bool.or_eq_true, decide_eq_true_iff] at hplain
      rw [String.toList_singleton]
      exact codePoints_self opening hquote hescape fun hcontrol => hplain (.inl hcontrol)
  all_goals rfl

theorem codePoints_pieces (opening : Nat) {cs : List Char} (h : ∀ c ∈ cs, IsPlainChar asciiOnly c) :
    codePoints opening ((cs.map (piece asciiOnly)).flatMap String.toList ++ '"' :: rest) =
      .ok (cs.map Char.toNat, rest) := by
  induction cs with
  | nil => rfl
  | cons c cs ih =>
    have hrest : (cs.map (piece asciiOnly)).flatMap String.toList ++ '"' :: rest ≠ [] :=
      List.append_ne_nil_of_right_ne_nil _ (List.cons_ne_nil _ _)
    rw [List.map_cons, List.flatMap_cons, List.append_assoc, codePoints_piece opening (h c List.mem_cons_self) hrest,
      ih fun d hd => h d (List.mem_cons_of_mem _ hd)]
    rfl

/-- The code points of characters are no surrogates, so each is a character of its own. -/
theorem characters_map_toNat (cs : List Char) : characters (cs.map Char.toNat) = cs := by
  have hself : ∀ c : Char, Surrogate.charOf c.toNat = c := fun c => by
    rw [Surrogate.charOf, Surrogate.isSurrogate_toNat, if_neg Bool.false_ne_true, Char.ofNat_toNat]
  induction cs with
  | nil => rfl
  | cons c cs ih =>
    cases cs with
    | nil => exact congrArg (fun c => [c]) (hself c)
    | cons d cs =>
      have hnot : ¬(0xd800 ≤ c.toNat ∧ c.toNat < 0xdc00 ∧ 0xdc00 ≤ d.toNat ∧ d.toNat < 0xe000) := by
        rintro ⟨hlow, hhigh, -⟩
        have hsurrogate := Surrogate.isSurrogate_iff.mpr ⟨hlow, Nat.lt_trans hhigh (by decide)⟩
        rw [Surrogate.isSurrogate_toNat] at hsurrogate
        cases hsurrogate
      rw [List.map_cons, List.map_cons, characters, if_neg hnot, hself]
      exact congrArg (List.cons c) ih

theorem toList_quoted_append (asciiOnly : Bool) (s : String) (rest : List Char) :
    (quoted asciiOnly s).toList ++ rest =
      '"' :: ((s.toList.map (piece asciiOnly)).flatMap String.toList ++ '"' :: rest) := by
  rw [quoted, String.toList_append, String.toList_append, String.toList_join, List.append_assoc, List.append_assoc]
  rfl

/-- A text in quotes is read back. -/
theorem textTail_quoted {s : String} (h : IsPlainText asciiOnly s) :
    textTail ((s.toList.map (piece asciiOnly)).flatMap String.toList ++ '"' :: rest) = .ok (s, rest) := by
  rw [textTail, codePoints_pieces _ h]
  show Except.ok (String.ofList (characters (s.toList.map Char.toNat)), rest) = _
  rw [characters_map_toNat, String.ofList_toList]

/-! ## Integers -/

/-- What follows a number does not go on with it. -/
structure EndsNumber (rest : List Char) : Prop where
  digits : Decimal.EndsDigits rest
  marks : ∀ c, rest.head? = some c → c ≠ '.' ∧ c ≠ 'e' ∧ c ≠ 'E'

theorem endsNumber_nil : EndsNumber [] := ⟨nofun, nofun⟩

theorem endsNumber_cons {c : Char} (hdigit : c.isDigit = false) (hmarks : c ≠ '.' ∧ c ≠ 'e' ∧ c ≠ 'E')
    (rest : List Char) : EndsNumber (c :: rest) :=
  ⟨fun _ h => Option.some.inj h ▸ hdigit, fun _ h => Option.some.inj h ▸ hmarks⟩

/-- The digits of an integer begin with a zero only if it is zero, so all of them are read. -/
theorem takeWhole_toDigits (n : Nat) (h : Decimal.EndsDigits rest) :
    takeWhole (Nat.toDigits 10 n ++ rest) = (Nat.toDigits 10 n, rest) := by
  rcases Nat.eq_zero_or_pos n with rfl | hpos
  · rfl
  · have hspan : (Nat.toDigits 10 n ++ rest).span Char.isDigit = (Nat.toDigits 10 n, rest) := by
      rw [List.span_eq_takeWhile_dropWhile, Decimal.takeWhile_toDigits_append n h, Decimal.dropWhile_toDigits_append n h]
    have hzero := Decimal.head?_toDigits_ne hpos
    rw [← hspan]
    cases hdigits : Nat.toDigits 10 n with
    | nil => exact absurd hdigits Nat.toDigits_ne_nil
    | cons d ds =>
      rw [hdigits] at hzero
      rw [List.cons_append, takeWhole]
      intro _ heq
      exact hzero (congrArg some (List.cons.inj heq).1)

theorem takeFraction_of_endsNumber (h : EndsNumber rest) : takeFraction rest = ([], rest) := by
  cases rest with
  | nil => rfl
  | cons c cs =>
    rw [takeFraction]
    intro _ heq
    exact (h.marks c rfl).1 (List.cons.inj heq).1

theorem takeExponent_of_endsNumber (h : EndsNumber rest) : takeExponent rest = (none, rest) := by
  cases rest with
  | nil => rfl
  | cons c cs =>
    obtain ⟨-, hsmall, hlarge⟩ := h.marks c rfl
    have hnot : ¬((c = 'e' ∨ c = 'E') ∧
        (!((Decimal.takeSign cs).2.takeWhile Char.isDigit).isEmpty) = true) := by
      rintro ⟨hmark | hmark, -⟩
      · exact hsmall hmark
      · exact hlarge hmark
    exact if_neg hnot

theorem unsignedNumber?_toDigits (negative : Bool) (n : Nat) (h : EndsNumber rest) :
    unsignedNumber? negative (Nat.toDigits 10 n ++ rest) = some (.int (Binary64.signed negative n), rest) := by
  rw [unsignedNumber?, takeWhole_toDigits n h.digits]
  split
  · rename_i hnil
    exact absurd (Prod.mk.inj hnil).1 Nat.toDigits_ne_nil
  · rename_i whole more _ hwhole
    obtain ⟨rfl, rfl⟩ := Prod.mk.inj hwhole
    rw [takeFraction_of_endsNumber h]
    dsimp only
    rw [takeExponent_of_endsNumber h, Decimal.natural_toDigits]
    rfl

theorem toList_intText (n : Int) : (numberText (.int n)).toList =
    if n < 0 then '-' :: Nat.toDigits 10 n.natAbs else Nat.toDigits 10 n.natAbs :=
  Decimal.toList_toString_int n

theorem exists_cons_toDigits (n : Nat) : ∃ d ds, Nat.toDigits 10 n = d :: ds ∧ d.isDigit := by
  obtain ⟨d, ds, h⟩ := List.exists_cons_of_ne_nil (Nat.toDigits_ne_nil (n := n) (b := 10))
  exact ⟨d, ds, h, Decimal.isDigit_of_mem_toDigits (h ▸ List.mem_cons_self)⟩

theorem ne_of_isDigit {c d : Char} (hd : d.isDigit) (hc : c.isDigit = false) : d ≠ c := by
  rintro rfl
  rw [hd] at hc
  cases hc

/-- The text of an integer begins with a digit or with a minus sign. -/
theorem exists_cons_intText (n : Int) :
    ∃ c more, (numberText (.int n)).toList = c :: more ∧ (c = '-' ∨ c.isDigit) := by
  obtain ⟨d, ds, hdigits, hdigit⟩ := exists_cons_toDigits n.natAbs
  rw [toList_intText]
  split
  · exact ⟨'-', _, rfl, .inl rfl⟩
  · exact ⟨d, ds, hdigits, .inr hdigit⟩

/-- No word has a digit among its first two characters. -/
theorem words_begin : ∀ w ∈ words, ∀ i < 2, (w.1.toList[i]?).any fun c => !c.isDigit := by decide +kernel

theorem word?_eq_none {cs : List Char} {i : Nat} {d : Char} (hi : i < 2) (hd : cs[i]? = some d) (hdigit : d.isDigit) :
    word? cs = none := by
  refine List.findSome?_eq_none_iff.mpr fun w hw => if_neg fun hprefix => ?_
  obtain ⟨c, hc, hnot⟩ := (Option.any_eq_true _ _).mp (words_begin w hw i hi)
  obtain ⟨hlt, hget⟩ := List.getElem?_eq_some_iff.mp hc
  have hsame := List.prefix_iff_getElem?.mp (List.isPrefixOf_iff_prefix.mp hprefix) i hlt
  rw [hd, hget] at hsame
  rw [← Option.some.inj hsame, hdigit] at hnot
  cases hnot

/-- A text without the minus sign at its head. -/
def withoutSign (cs : List Char) : List Char := if cs.head? = some '-' then cs.tail else cs

theorem number?_eq (cs : List Char) : number? cs = unsignedNumber? (cs.head? = some '-') (withoutSign cs) := by
  rw [withoutSign]
  by_cases h : cs.head? = some '-'
  · obtain ⟨cs, rfl⟩ := List.head?_eq_some_iff.mp h
    rw [if_pos h, decide_eq_true h]
    rfl
  · rw [if_neg h, decide_eq_false h, number?]
    rintro cs rfl
    exact h rfl

theorem plainValue_digits {cs : List Char} {negative : Bool} {n : Nat} (hword : word? cs = none)
    (hsign : decide (cs.head? = some '-') = negative) (hdigits : withoutSign cs = Nat.toDigits 10 n ++ rest)
    (hlength : (Nat.toDigits 10 n).length ≤ Number.maxDigits) (h : EndsNumber rest) :
    plainValue cs = .ok (.number (.int (Binary64.signed negative n)), rest) := by
  have hwhole : wholeLength cs = (Nat.toDigits 10 n).length := by
    rw [wholeLength, ← withoutSign, hdigits, takeWhole_toDigits n h.digits]
  rw [plainValue, hword, number?_eq, hsign, hdigits, unsignedNumber?_toDigits negative n h]
  dsimp only
  rw [hwhole, if_neg (Nat.not_lt.mpr hlength)]

/-- An integer that may be written is read back. -/
theorem plainValue_int {n : Int} (hn : (Number.int n).isWritable) (h : EndsNumber rest) :
    plainValue ((numberText (.int n)).toList ++ rest) = .ok (.number (.int n), rest) := by
  obtain ⟨d, ds, hdigits, hdigit⟩ := exists_cons_toDigits n.natAbs
  have hlength := Number.isWritable_int_iff.mp hn
  rw [toList_intText]
  split
  · rename_i hneg
    have hsigned : Binary64.signed true n.natAbs = n := by
      rw [Binary64.signed, if_pos rfl, Int.ofNat_natAbs_of_nonpos (Int.le_of_lt hneg), Int.neg_neg]
    have hword : word? ('-' :: Nat.toDigits 10 n.natAbs ++ rest) = none :=
      word?_eq_none (by decide : 1 < 2) (by rw [hdigits]; rfl) hdigit
    rw [plainValue_digits hword (decide_eq_true rfl) (if_pos rfl) hlength h, hsigned]
  · rename_i hpos
    have hsigned : Binary64.signed false n.natAbs = n := Int.natAbs_of_nonneg (Int.not_lt.mp hpos)
    have hhead : (Nat.toDigits 10 n.natAbs ++ rest).head? ≠ some '-' := by
      rw [hdigits]
      intro hminus
      rw [Option.some.inj hminus] at hdigit
      cases hdigit
    have hword : word? (Nat.toDigits 10 n.natAbs ++ rest) = none :=
      word?_eq_none (by decide : 0 < 2) (by rw [hdigits]; rfl) hdigit
    rw [plainValue_digits hword (decide_eq_false hhead) (if_neg hhead) hlength h, hsigned]

/-! ## Integers that are read -/

theorem isDigit_of_mem_takeWhole {cs : List Char} {c : Char} (h : c ∈ (takeWhole cs).1) : c.isDigit := by
  unfold takeWhole at h
  split at h
  · rw [List.mem_singleton.mp h]
    rfl
  · rw [List.span_eq_takeWhile_dropWhile] at h
    exact List.all_eq_true.mp List.all_takeWhile c h

/-- An integer is read from its digits before the point. -/
theorem natAbs_of_unsignedNumber? {negative : Bool} {cs more : List Char} {n : Int}
    (h : unsignedNumber? negative cs = some (.int n, more)) :
    n.natAbs = Decimal.natural (takeWhole cs).1 ∧ (takeWhole cs).1 ≠ [] := by
  rw [unsignedNumber?] at h
  split at h
  · cases h
  · rename_i whole rest hnil hwhole
    dsimp only at h
    split at h
    · obtain ⟨hnumber, -⟩ := Prod.mk.inj (Option.some.inj h)
      rw [hwhole, ← Number.int.inj hnumber, Binary64.signed]
      refine ⟨?_, fun hempty => hnil hempty⟩
      split <;> simp
    · cases (Prod.mk.inj (Option.some.inj h)).1

/-- An integer that is read without a fault may be written. -/
theorem isWritable_of_number? {cs more : List Char} {n : Int} (h : number? cs = some (.int n, more))
    (hlength : wholeLength cs ≤ Number.maxDigits) : (Number.int n).isWritable := by
  rw [number?_eq] at h
  rw [wholeLength, ← withoutSign] at hlength
  obtain ⟨hvalue, hsome⟩ := natAbs_of_unsignedNumber? h
  have hlt := Decimal.natural_lt fun c (hc : c ∈ (takeWhole (withoutSign cs)).1) => isDigit_of_mem_takeWhole hc
  rw [← hvalue] at hlt
  exact Number.isWritable_int_iff.mpr
    (Nat.le_trans ((Decimal.lt_pow_iff (List.length_pos_iff.mpr hsome)).mp hlt) hlength)

/-- No integer in a value has too many digits to be written. -/
inductive IsWritable : Json → Prop
  | null : IsWritable .null
  | bool (b : Bool) : IsWritable (.bool b)
  | number {n : Number} (h : n.isWritable) : IsWritable (.number n)
  | text (s : String) : IsWritable (.text s)
  | list {js : List Json} (h : ∀ j ∈ js, IsWritable j) : IsWritable (.list js)
  | object {ms : List (String × Json)} (h : ∀ m ∈ ms, IsWritable m.2) : IsWritable (.object ms)

@[simp] theorem isWritable_text (s : String) : (Json.text s).IsWritable := .text s

@[simp] theorem isWritable_number_iff {n : Number} : (Json.number n).IsWritable ↔ n.isWritable := by
  constructor
  · rintro ⟨⟩
    assumption
  · exact .number

@[simp] theorem isWritable_list_iff {js : List Json} : (Json.list js).IsWritable ↔ ∀ j ∈ js, j.IsWritable := by
  constructor
  · rintro ⟨⟩
    assumption
  · exact .list

@[simp] theorem isWritable_object_iff {ms : List (String × Json)} :
    (Json.object ms).IsWritable ↔ ∀ m ∈ ms, m.2.IsWritable := by
  constructor
  · rintro ⟨⟩
    assumption
  · exact .object

mutual

/-- A value may be written if and only if each number in it has few enough digits. -/
theorem isWritable_iff_numbers (j : Json) : j.IsWritable ↔ ∀ n ∈ j.numbers, n.isWritable := by
  cases j with
  | null => exact iff_of_true .null (by simp [numbers])
  | bool b => exact iff_of_true (.bool b) (by simp [numbers])
  | number n => rw [isWritable_number_iff, numbers, List.forall_mem_singleton]
  | text s => exact iff_of_true (.text s) (by simp [numbers])
  | list js => rw [isWritable_list_iff, numbers, forall_isWritable_iff js]
  | object ms => rw [isWritable_object_iff, numbers, forall_isWritable_member_iff ms]

theorem forall_isWritable_iff (js : List Json) :
    (∀ j ∈ js, j.IsWritable) ↔ ∀ n ∈ itemNumbers js, n.isWritable := by
  cases js with
  | nil => simp [itemNumbers]
  | cons j js =>
    rw [List.forall_mem_cons, itemNumbers, List.forall_mem_append, isWritable_iff_numbers j, forall_isWritable_iff js]

theorem forall_isWritable_member_iff (ms : List (String × Json)) :
    (∀ m ∈ ms, m.2.IsWritable) ↔ ∀ n ∈ memberNumbers ms, n.isWritable := by
  cases ms with
  | nil => simp [memberNumbers]
  | cons m ms =>
    obtain ⟨name, j⟩ := m
    rw [List.forall_mem_cons, memberNumbers, numbersOfMember, List.forall_mem_append, isWritable_iff_numbers j,
      forall_isWritable_member_iff ms]

end

/-- Writing fails for want of digits only, and otherwise gives the text of the value. -/
theorem write?_eq_some_iff {j : Json} {text : String} :
    write? asciiOnly j = some text ↔ j.IsWritable ∧ j.write asciiOnly = text := by
  rw [write?, isWritable_iff_numbers, ← List.all_eq_true, Option.ite_none_right_eq_some, Option.some.injEq]

theorem isWritable_of_mem_words : ∀ w ∈ words, w.2.IsWritable := by
  intro w hw
  simp only [words, List.mem_cons, List.not_mem_nil, or_false] at hw
  rcases hw with rfl | rfl | rfl | rfl | rfl | rfl
  · exact .null
  · exact .bool true
  · exact .bool false
  all_goals exact .number rfl

/-- What is read as a word or a number may be written. -/
theorem exists_mem_words {cs : List Char} {j : Json} (h : word? cs = some (j, rest)) : ∃ w ∈ words, w.2 = j := by
  obtain ⟨w, hw, hsome⟩ := List.exists_of_findSome?_eq_some h
  dsimp only at hsome
  split at hsome
  · exact ⟨w, hw, congrArg Prod.fst (Option.some.inj hsome)⟩
  · cases hsome

theorem isWritable_of_plainValue {cs : List Char} {j : Json} (h : plainValue cs = .ok (j, rest)) : j.IsWritable := by
  rw [plainValue] at h
  split at h
  · rename_i r hword
    cases h
    obtain ⟨w, hw, rfl⟩ := exists_mem_words hword
    exact isWritable_of_mem_words w hw
  · split at h
    · rename_i n more hnumber
      split at h
      · cases h
      · rename_i hlength
        cases h
        exact .number (isWritable_of_number? hnumber (Nat.not_lt.mp hlength))
    · rename_i n _ hnot hnumber
      cases h
      cases n with
      | int n => exact (hnot n rfl).elim
      | float x => exact .number rfl
    · cases h

end Deflatten.Json
