import Deflatten.Proofs.Json.Scalars
import Mathlib.Data.List.Nodup
/-!
# Reading JSON back

A value without fractions whose objects name no member twice is read back as it was written, exactly if no integer in it has
too many digits (`Json.parse_write_iff`). One direction is an induction over the value (`Json.IsPlain`), in which a value is
read whatever stands after it that does not go on with a number, and with two rounds for each character that is left; the
other is an invariant of the reader, which gives no integer that could not be written (`Json.isWritable_of_parse`).
-/

namespace Deflatten.Json

variable {asciiOnly : Bool} {j : Json} {rest : List Char}

/-- A value without fractions, with texts of plain characters, in which no object names a member twice. -/
inductive IsPlain (asciiOnly : Bool) : Json → Prop
  | null : IsPlain asciiOnly .null
  | bool (b : Bool) : IsPlain asciiOnly (.bool b)
  | int (n : Int) : IsPlain asciiOnly (.number (.int n))
  | text {s : String} (h : IsPlainText asciiOnly s) : IsPlain asciiOnly (.text s)
  | list {js : List Json} (h : ∀ j ∈ js, IsPlain asciiOnly j) : IsPlain asciiOnly (.list js)
  | object {ms : List (String × Json)} (hnames : (ms.map Prod.fst).Nodup)
      (htexts : ∀ m ∈ ms, IsPlainText asciiOnly m.1) (h : ∀ m ∈ ms, IsPlain asciiOnly m.2) : IsPlain asciiOnly (.object ms)

/-! ## Between values -/

theorem toList_lineAt (depth : Nat) : (lineAt depth).toList = '\n' :: List.replicate (2 * depth) ' ' := by
  rw [lineAt, String.toList_append, String.toList_ofList, String.toList_ofList]
  rfl

theorem skipBlank_lineAt (depth : Nat) (cs : List Char) : skipBlank ((lineAt depth).toList ++ cs) = skipBlank cs := by
  refine List.dropWhile_append_of_pos fun c hc => ?_
  rw [toList_lineAt] at hc
  rcases List.mem_cons.mp hc with rfl | hc
  · rfl
  · rw [List.eq_of_mem_replicate hc]
    rfl

theorem skipBlank_cons {c : Char} (h : isBlank c = false) (cs : List Char) : skipBlank (c :: cs) = c :: cs := by
  rw [skipBlank, List.dropWhile_cons, h, if_neg Bool.false_ne_true]

/-- A text begins neither with a blank, nor as a list ends, nor with the mark of an encoding. -/
def BeginsValue (cs : List Char) : Prop :=
  ∃ c more, cs = c :: more ∧ isBlank c = false ∧ c ≠ ']' ∧ c ≠ '\ufeff'

theorem BeginsValue.append {cs : List Char} (h : BeginsValue cs) (rest : List Char) : BeginsValue (cs ++ rest) := by
  obtain ⟨c, more, rfl, hc⟩ := h
  exact ⟨c, more ++ rest, rfl, hc⟩

theorem BeginsValue.skipBlank {cs : List Char} (h : BeginsValue cs) : skipBlank cs = cs := by
  obtain ⟨c, more, rfl, hblank, -⟩ := h
  exact skipBlank_cons hblank more

theorem beginsValue_of_isDigit {d : Char} (h : d.isDigit) (cs : List Char) : BeginsValue (d :: cs) := by
  have hblank : isBlank d = false := by
    simp only [isBlank, Bool.or_eq_false_iff, beq_eq_false_iff_ne]
    exact ⟨⟨⟨ne_of_isDigit h rfl, ne_of_isDigit h rfl⟩, ne_of_isDigit h rfl⟩, ne_of_isDigit h rfl⟩
  exact ⟨d, cs, rfl, hblank, ne_of_isDigit h rfl, ne_of_isDigit h rfl⟩

/-! ## Written lists and objects -/

/-- The items of a list from one on, up to the closing bracket, and what stands after it. -/
def itemsText (asciiOnly : Bool) (depth outer : Nat) (j : Json) (js : List Json) (rest : List Char) : List Char :=
  (writeAt asciiOnly depth j).toList ++ ((writeItems asciiOnly depth js).toList ++ ((lineAt outer).toList ++ ']' :: rest))

/-- The members of an object from one on, up to the closing brace, and what stands after it. -/
def membersText (asciiOnly : Bool) (depth outer : Nat) (m : String × Json) (ms : List (String × Json))
    (rest : List Char) : List Char :=
  (quoted asciiOnly m.1).toList ++ ':' :: ' ' :: ((writeAt asciiOnly depth m.2).toList ++
    ((writeMembers asciiOnly depth ms).toList ++ ((lineAt outer).toList ++ '\x7d' :: rest)))

theorem toList_writeList (asciiOnly : Bool) (depth : Nat) (j : Json) (js : List Json) (rest : List Char) :
    (writeAt asciiOnly depth (.list (j :: js))).toList ++ rest =
      '[' :: ((lineAt (depth + 1)).toList ++ itemsText asciiOnly (depth + 1) depth j js rest) := by
  simp only [writeAt, itemsText, String.toList_append, List.append_assoc]
  rfl

theorem itemsText_nil (asciiOnly : Bool) (depth outer : Nat) (j : Json) (rest : List Char) :
    itemsText asciiOnly depth outer j [] rest =
      (writeAt asciiOnly depth j).toList ++ ((lineAt outer).toList ++ ']' :: rest) := by
  rw [itemsText, writeItems]
  rfl

theorem itemsText_cons (asciiOnly : Bool) (depth outer : Nat) (j i : Json) (js : List Json) (rest : List Char) :
    itemsText asciiOnly depth outer j (i :: js) rest =
      (writeAt asciiOnly depth j).toList ++ ',' :: ((lineAt depth).toList ++ itemsText asciiOnly depth outer i js rest) := by
  simp only [writeItems, itemsText, String.toList_append, List.append_assoc]
  rfl

theorem toList_writeMember (asciiOnly : Bool) (depth : Nat) (m : String × Json) :
    (writeMember asciiOnly depth m).toList =
      (quoted asciiOnly m.1).toList ++ ':' :: ' ' :: (writeAt asciiOnly depth m.2).toList := by
  obtain ⟨name, value⟩ := m
  rw [writeMember, String.toList_append, String.toList_append, List.append_assoc]
  rfl

theorem toList_writeObject (asciiOnly : Bool) (depth : Nat) (m : String × Json) (ms : List (String × Json))
    (rest : List Char) : (writeAt asciiOnly depth (.object (m :: ms))).toList ++ rest =
      '\x7b' :: ((lineAt (depth + 1)).toList ++ membersText asciiOnly (depth + 1) depth m ms rest) := by
  simp only [writeAt, toList_writeMember, membersText, String.toList_append, List.append_assoc]
  rfl

theorem membersText_nil (asciiOnly : Bool) (depth outer : Nat) (m : String × Json) (rest : List Char) :
    membersText asciiOnly depth outer m [] rest = (quoted asciiOnly m.1).toList ++
      ':' :: ' ' :: ((writeAt asciiOnly depth m.2).toList ++ ((lineAt outer).toList ++ '\x7d' :: rest)) := by
  rw [membersText, writeMembers]
  rfl

theorem membersText_cons (asciiOnly : Bool) (depth outer : Nat) (m l : String × Json) (ms : List (String × Json))
    (rest : List Char) : membersText asciiOnly depth outer m (l :: ms) rest =
      (quoted asciiOnly m.1).toList ++ ':' :: ' ' :: ((writeAt asciiOnly depth m.2).toList ++
        ',' :: ((lineAt depth).toList ++ membersText asciiOnly depth outer l ms rest)) := by
  simp only [writeMembers, toList_writeMember, membersText, String.toList_append, List.append_assoc]
  rfl

theorem exists_cons_membersText (asciiOnly : Bool) (depth outer : Nat) (m : String × Json) (ms : List (String × Json))
    (rest : List Char) : ∃ more, membersText asciiOnly depth outer m ms rest = '"' :: more :=
  ⟨_, toList_quoted_append ..⟩

theorem IsPlain.beginsValue (h : IsPlain asciiOnly j) (depth : Nat) :
    BeginsValue (writeAt asciiOnly depth j).toList := by
  cases h with
  | null =>
    rw [writeAt]
    exact ⟨'n', _, rfl, rfl, by decide, by decide⟩
  | bool b =>
    rw [writeAt]
    cases b with
    | true => exact ⟨'t', _, rfl, rfl, by decide, by decide⟩
    | false => exact ⟨'f', _, rfl, rfl, by decide, by decide⟩
  | int n =>
    obtain ⟨c, more, htext, rfl | hdigit⟩ := exists_cons_intText n
    · exact ⟨'-', more, by rw [writeAt, htext], rfl, by decide, by decide⟩
    · rw [writeAt, htext]
      exact beginsValue_of_isDigit hdigit more
  | text hs =>
    rw [writeAt, ← List.append_nil (String.toList _), toList_quoted_append]
    exact ⟨'"', _, rfl, rfl, by decide, by decide⟩
  | @list js hjs =>
    cases js with
    | nil =>
      rw [writeAt]
      exact ⟨'[', _, rfl, rfl, by decide, by decide⟩
    | cons j js =>
      rw [← List.append_nil (String.toList _), toList_writeList]
      exact ⟨'[', _, rfl, rfl, by decide, by decide⟩
  | @object ms hnames htexts hms =>
    cases ms with
    | nil =>
      rw [writeAt]
      exact ⟨'\x7b', _, rfl, rfl, by decide, by decide⟩
    | cons m ms =>
      rw [← List.append_nil (String.toList _), toList_writeObject]
      exact ⟨'\x7b', _, rfl, rfl, by decide, by decide⟩

/-! ## Items and members -/

/-- A value is read back, whatever stands after it that does not go on with a number. -/
def ReadsBack (asciiOnly : Bool) (j : Json) : Prop :=
  ∀ depth rounds rest, EndsNumber rest → 2 * ((writeAt asciiOnly depth j).toList ++ rest).length + 2 ≤ rounds →
    value rounds ((writeAt asciiOnly depth j).toList ++ rest) = .ok (j, rest)

theorem endsNumber_lineAt (depth : Nat) (cs : List Char) : EndsNumber ((lineAt depth).toList ++ cs) := by
  rw [toList_lineAt]
  exact endsNumber_cons rfl (by decide) _

/-- The items of a list are read back up to the closing bracket. -/
theorem items_itemsText {js : List Json} (hplain : ∀ i ∈ j :: js, IsPlain asciiOnly i)
    (h : ∀ i ∈ j :: js, ReadsBack asciiOnly i) (depth outer rounds : Nat)
    (hrounds : 2 * (itemsText asciiOnly depth outer j js rest).length + 3 ≤ rounds) :
    items rounds (itemsText asciiOnly depth outer j js rest) = .ok (j :: js, rest) := by
  induction js generalizing j rounds with
  | nil =>
    obtain ⟨rounds, rfl⟩ : ∃ r, rounds = r + 1 := ⟨rounds - 1, by omega⟩
    have hend : skipBlank ((lineAt outer).toList ++ ']' :: rest) = ']' :: rest :=
      (skipBlank_lineAt outer _).trans (skipBlank_cons rfl rest)
    rw [itemsText_nil] at hrounds ⊢
    rw [items, h j List.mem_cons_self depth rounds _ (endsNumber_lineAt outer _) (by omega)]
    simp only [bind, Except.bind, hend]
    rfl
  | cons i js ih =>
    obtain ⟨rounds, rfl⟩ : ∃ r, rounds = r + 1 := ⟨rounds - 1, by omega⟩
    have hnext : skipBlank (itemsText asciiOnly depth outer i js rest) = itemsText asciiOnly depth outer i js rest :=
      ((hplain i (List.mem_cons_of_mem _ List.mem_cons_self)).beginsValue depth |>.append _).skipBlank
    rw [itemsText_cons] at hrounds ⊢
    have hothers := ih (fun k hk => hplain k (List.mem_cons_of_mem _ hk)) (fun k hk => h k (List.mem_cons_of_mem _ hk))
      rounds (by simp only [List.length_append, List.length_cons] at hrounds; omega)
    rw [items, h j List.mem_cons_self depth rounds _ (endsNumber_cons rfl (by decide) _) (by omega)]
    simp only [bind, Except.bind, skipBlank_cons (c := ',') rfl, skipBlank_lineAt, hnext, hothers]
    rfl

theorem setMember_of_notMem {name : String} {ms : List (String × Json)} (h : name ∉ ms.map Prod.fst) (j : Json) :
    setMember name j ms = ms ++ [(name, j)] := by
  induction ms with
  | nil => rfl
  | cons m ms ih =>
    obtain ⟨n, v⟩ := m
    rw [List.map_cons, List.mem_cons, not_or] at h
    rw [setMember, if_neg (Ne.symm h.1), ih h.2]
    rfl

/-- A member is read back, and is added to those read before. -/
theorem memberList_member {name : String} (hname : IsPlainText asciiOnly name) (hplain : IsPlain asciiOnly j)
    (h : ReadsBack asciiOnly j) (depth rounds : Nat) (before : List (String × Json)) (hrest : EndsNumber rest)
    (hrounds : 2 * ((writeAt asciiOnly depth j).toList ++ rest).length + 2 ≤ rounds) :
    memberList (rounds + 1) before
        ((quoted asciiOnly name).toList ++ ':' :: ' ' :: ((writeAt asciiOnly depth j).toList ++ rest)) =
      match skipBlank rest with
      | '\x7d' :: cs => .ok (setMember name j before, cs)
      | ',' :: cs => memberList rounds (setMember name j before) (skipBlank cs)
      | cs => stopAt .noComma cs := by
  have hvalue : skipBlank (' ' :: ((writeAt asciiOnly depth j).toList ++ rest)) = (writeAt asciiOnly depth j).toList ++ rest :=
    ((hplain.beginsValue depth).append rest).skipBlank
  rw [toList_quoted_append, memberList, textTail_quoted hname]
  simp only [bind, Except.bind, skipBlank_cons (c := ':') rfl, hvalue, h depth rounds rest hrest hrounds]
  rfl

theorem notMem_of_nodup_names {m : String × Json} {before ms : List (String × Json)}
    (h : ((before ++ m :: ms).map Prod.fst).Nodup) : m.1 ∉ before.map Prod.fst := by
  rw [List.map_append, List.map_cons] at h
  exact fun hmem => (List.nodup_middle.mp h).notMem (List.mem_append_left _ hmem)

/-- The members of an object are read back up to the closing brace and stand after those read before. -/
theorem memberList_membersText {m : String × Json} {ms before : List (String × Json)}
    (hnames : ((before ++ m :: ms).map Prod.fst).Nodup) (htexts : ∀ l ∈ m :: ms, IsPlainText asciiOnly l.1)
    (hplain : ∀ l ∈ m :: ms, IsPlain asciiOnly l.2) (h : ∀ l ∈ m :: ms, ReadsBack asciiOnly l.2) (depth outer rounds : Nat)
    (hrounds : 2 * (membersText asciiOnly depth outer m ms rest).length + 3 ≤ rounds) :
    memberList rounds before (membersText asciiOnly depth outer m ms rest) = .ok (before ++ m :: ms, rest) := by
  induction ms generalizing m before rounds with
  | nil =>
    obtain ⟨rounds, rfl⟩ : ∃ r, rounds = r + 1 := ⟨rounds - 1, by omega⟩
    have hend : skipBlank ((lineAt outer).toList ++ '\x7d' :: rest) = '\x7d' :: rest :=
      (skipBlank_lineAt outer _).trans (skipBlank_cons rfl rest)
    rw [membersText_nil] at hrounds ⊢
    rw [memberList_member (htexts m List.mem_cons_self) (hplain m List.mem_cons_self) (h m List.mem_cons_self) depth rounds
      before (endsNumber_lineAt outer _) (by simp only [List.length_append, List.length_cons] at hrounds ⊢; omega), hend]
    rw [setMember_of_notMem (notMem_of_nodup_names hnames)]
    rfl
  | cons l ms ih =>
    obtain ⟨rounds, rfl⟩ : ∃ r, rounds = r + 1 := ⟨rounds - 1, by omega⟩
    obtain ⟨more, hmore⟩ := exists_cons_membersText asciiOnly depth outer l ms rest
    have hnext : skipBlank (membersText asciiOnly depth outer l ms rest) = membersText asciiOnly depth outer l ms rest := by
      rw [hmore, skipBlank_cons rfl]
    have hothers := ih (m := l) (show ((before ++ [m] ++ l :: ms).map Prod.fst).Nodup by rwa [List.append_assoc])
      (fun k hk => htexts k (List.mem_cons_of_mem _ hk)) (fun k hk => hplain k (List.mem_cons_of_mem _ hk))
      (fun k hk => h k (List.mem_cons_of_mem _ hk)) rounds
      (by rw [membersText_cons] at hrounds; simp only [List.length_append, List.length_cons] at hrounds; omega)
    rw [membersText_cons] at hrounds ⊢
    rw [memberList_member (htexts m List.mem_cons_self) (hplain m List.mem_cons_self) (h m List.mem_cons_self) depth rounds
      before (endsNumber_cons rfl (by decide) _) (by simp only [List.length_append, List.length_cons] at hrounds ⊢; omega),
      skipBlank_cons rfl, setMember_of_notMem (notMem_of_nodup_names hnames)]
    show memberList rounds (before ++ [m]) (skipBlank ((lineAt depth).toList ++ _)) = _
    rw [skipBlank_lineAt, hnext, hothers, List.append_assoc]
    rfl

/-! ## Values -/

theorem value_of_plain (rounds : Nat) {c : Char} (hquote : c ≠ '"') (hlist : c ≠ '[') (hobject : c ≠ '\x7b')
    (cs : List Char) : value (rounds + 1) (c :: cs) = plainValue (c :: cs) := by
  rw [value]
  · exact fun _ h => hquote (List.cons.inj h).1
  · exact fun _ h => hlist (List.cons.inj h).1
  · exact fun _ h => hobject (List.cons.inj h).1

theorem value_list (rounds : Nat) {cs : List Char} (h : BeginsValue (skipBlank cs)) :
    value (rounds + 1) ('[' :: cs) = (items rounds (skipBlank cs)).map fun (js, rest) => (.list js, rest) := by
  obtain ⟨c, more, hcs, -, hne, -⟩ := h
  rw [value, hcs]
  split
  · rename_i heq
    exact absurd (List.cons.inj heq).1 hne
  · rfl

theorem value_object (rounds : Nat) {cs more : List Char} (h : skipBlank cs = '"' :: more) :
    value (rounds + 1) ('\x7b' :: cs) = (memberList rounds [] ('"' :: more)).map fun (ms, rest) => (.object ms, rest) := by
  rw [value, h]
  rfl

/-- One round is for the value itself. -/
theorem readsBack_of_succ (h : ∀ depth rounds rest, EndsNumber rest →
    2 * ((writeAt asciiOnly depth j).toList ++ rest).length + 1 ≤ rounds →
      value (rounds + 1) ((writeAt asciiOnly depth j).toList ++ rest) = .ok (j, rest)) : ReadsBack asciiOnly j := by
  intro depth rounds rest hrest hrounds
  cases rounds with
  | zero => cases hrounds
  | succ rounds => exact h depth rounds rest hrest (Nat.le_of_succ_le_succ hrounds)

theorem readsBack_null : ReadsBack asciiOnly .null := by
  refine readsBack_of_succ fun depth rounds rest _ _ => ?_
  rw [writeAt]
  exact value_of_plain rounds (by decide) (by decide) (by decide) _

theorem readsBack_bool (b : Bool) : ReadsBack asciiOnly (.bool b) := by
  refine readsBack_of_succ fun depth rounds rest _ _ => ?_
  rw [writeAt]
  cases b with
  | true => exact value_of_plain rounds (by decide) (by decide) (by decide) _
  | false => exact value_of_plain rounds (by decide) (by decide) (by decide) _

theorem readsBack_int {n : Int} (hn : (Number.int n).isWritable) : ReadsBack asciiOnly (.number (.int n)) := by
  refine readsBack_of_succ fun depth rounds rest hrest _ => ?_
  obtain ⟨c, more, htext, hc⟩ := exists_cons_intText n
  have hne : ∀ d : Char, d ≠ '-' → d.isDigit = false → c ≠ d := by
    rintro d hminus hdigit rfl
    rcases hc with hc | hc
    · exact hminus hc
    · exact ne_of_isDigit hc hdigit rfl
  have hplain := value_of_plain rounds (hne _ (by decide) rfl) (hne _ (by decide) rfl) (hne _ (by decide) rfl)
    (more ++ rest)
  rw [writeAt, htext, List.cons_append, hplain, ← List.cons_append, ← htext, plainValue_int hn hrest]

theorem readsBack_text {s : String} (hs : IsPlainText asciiOnly s) : ReadsBack asciiOnly (.text s) := by
  refine readsBack_of_succ fun depth rounds rest _ _ => ?_
  rw [writeAt, toList_quoted_append, value, textTail_quoted hs]
  rfl

theorem readsBack_list {js : List Json} (hplain : ∀ i ∈ js, IsPlain asciiOnly i)
    (h : ∀ i ∈ js, ReadsBack asciiOnly i) : ReadsBack asciiOnly (.list js) := by
  refine readsBack_of_succ fun depth rounds rest _ hrounds => ?_
  cases js with
  | nil =>
    rw [writeAt]
    rfl
  | cons j js =>
    have hfirst := ((hplain j List.mem_cons_self).beginsValue (depth + 1)).append
      ((writeItems asciiOnly (depth + 1) js).toList ++ ((lineAt depth).toList ++ ']' :: rest))
    have hitems : skipBlank ((lineAt (depth + 1)).toList ++ itemsText asciiOnly (depth + 1) depth j js rest) =
        itemsText asciiOnly (depth + 1) depth j js rest :=
      (skipBlank_lineAt _ _).trans hfirst.skipBlank
    rw [toList_writeList] at hrounds ⊢
    rw [value_list rounds (by rw [hitems]; exact hfirst), hitems, items_itemsText hplain h (depth + 1) depth rounds
      (by simp only [List.length_append, List.length_cons] at hrounds; omega)]
    rfl

theorem readsBack_object {ms : List (String × Json)} (hnames : (ms.map Prod.fst).Nodup)
    (htexts : ∀ m ∈ ms, IsPlainText asciiOnly m.1) (hplain : ∀ m ∈ ms, IsPlain asciiOnly m.2)
    (h : ∀ m ∈ ms, ReadsBack asciiOnly m.2) : ReadsBack asciiOnly (.object ms) := by
  refine readsBack_of_succ fun depth rounds rest _ hrounds => ?_
  cases ms with
  | nil =>
    rw [writeAt]
    rfl
  | cons m ms =>
    obtain ⟨more, hmore⟩ := exists_cons_membersText asciiOnly (depth + 1) depth m ms rest
    have hmembers : skipBlank ((lineAt (depth + 1)).toList ++ membersText asciiOnly (depth + 1) depth m ms rest) =
        '"' :: more := by
      rw [skipBlank_lineAt, hmore, skipBlank_cons rfl]
    rw [toList_writeObject] at hrounds ⊢
    rw [value_object rounds hmembers, ← hmore, memberList_membersText (List.nil_append _ ▸ hnames) htexts hplain h
      (depth + 1) depth rounds (by simp only [List.length_append, List.length_cons] at hrounds; omega)]
    rfl

/-- What may be written is read back. -/
theorem IsPlain.readsBack (h : IsPlain asciiOnly j) (hw : j.IsWritable) : ReadsBack asciiOnly j := by
  induction h with
  | null => exact readsBack_null
  | bool b => exact readsBack_bool b
  | int n => exact readsBack_int (isWritable_number_iff.mp hw)
  | text hs => exact readsBack_text hs
  | list hplain ih => exact readsBack_list hplain fun j hj => ih j hj (isWritable_list_iff.mp hw j hj)
  | object hnames htexts hplain ih =>
    exact readsBack_object hnames htexts hplain fun m hm => ih m hm (isWritable_object_iff.mp hw m hm)

/-- A value that may be written is read back. -/
theorem parse_write (h : IsPlain asciiOnly j) (hw : j.IsWritable) : parse (write asciiOnly j).toList = .ok j := by
  have hbegins := h.beginsValue 0
  have hvalue := h.readsBack hw 0 (2 * (writeAt asciiOnly 0 j).toList.length + 2) [] endsNumber_nil
    (Nat.le_of_eq (by rw [List.append_nil]))
  have hmark : (writeAt asciiOnly 0 j).toList.head? ≠ some '\ufeff' := by
    obtain ⟨c, more, htext, -, -, hne⟩ := hbegins
    rw [htext]
    exact fun heq => hne (Option.some.inj heq)
  have hread : readAll (writeAt asciiOnly 0 j).toList = .ok j := by
    rw [List.append_nil] at hvalue
    rw [readAll, if_neg hmark, hbegins.skipBlank, hvalue]
    rfl
  rw [parse, write, hread]
  rfl

/-! ## What is read -/

theorem exists_of_map_eq_ok {α β ε : Type} {f : α → β} {x : Except ε α} {b : β} (h : x.map f = .ok b) :
    ∃ a, x = .ok a ∧ f a = b := by
  cases x with
  | ok a => exact ⟨a, rfl, Except.ok.inj h⟩
  | error _ => cases h

theorem exists_of_bind_eq_ok {α β ε : Type} {f : α → Except ε β} {x : Except ε α} {b : β} (h : x >>= f = .ok b) :
    ∃ a, x = .ok a ∧ f a = .ok b := by
  cases x with
  | ok a => exact ⟨a, rfl, h⟩
  | error _ => cases h

theorem mem_setMember {name : String} {ms : List (String × Json)} {m : String × Json} (h : m ∈ setMember name j ms) :
    m ∈ ms ∨ m.2 = j := by
  induction ms with
  | nil => exact .inr (congrArg Prod.snd (List.mem_singleton.mp h))
  | cons l ms ih =>
    obtain ⟨n, v⟩ := l
    rw [setMember] at h
    split at h
    · rcases List.mem_cons.mp h with rfl | h
      · exact .inr rfl
      · exact .inl (List.mem_cons_of_mem _ h)
    · rcases List.mem_cons.mp h with rfl | h
      · exact .inl List.mem_cons_self
      · exact (ih h).imp_left (List.mem_cons_of_mem _)

/-- What is read in a number of rounds may be written. -/
structure ReadsWritable (rounds : Nat) : Prop where
  value : ∀ {cs rest : List Char} {j : Json}, value rounds cs = .ok (j, rest) → j.IsWritable
  items : ∀ {cs rest : List Char} {js : List Json}, items rounds cs = .ok (js, rest) → ∀ j ∈ js, j.IsWritable
  members : ∀ {cs rest : List Char} {before ms : List (String × Json)}, (∀ m ∈ before, m.2.IsWritable) →
    memberList rounds before cs = .ok (ms, rest) → ∀ m ∈ ms, m.2.IsWritable

theorem readsWritable_zero : ReadsWritable 0 where
  value h := by cases h
  items h := by cases h
  members _ h := by cases h

theorem ReadsWritable.value_succ {rounds : Nat} (ih : ReadsWritable rounds) {cs rest : List Char} {j : Json}
    (h : Json.value (rounds + 1) cs = .ok (j, rest)) : j.IsWritable := by
  rw [Json.value.eq_def] at h
  dsimp only at h
  split at h
  · obtain ⟨⟨s, more⟩, -, heq⟩ := exists_of_map_eq_ok h
    cases heq
    exact .text s
  · split at h
    · cases h
      exact .list (List.forall_mem_nil _)
    · obtain ⟨⟨js, more⟩, hitems, heq⟩ := exists_of_map_eq_ok h
      cases heq
      exact .list (ih.items hitems)
  · split at h
    · cases h
      exact .object (List.forall_mem_nil _)
    · obtain ⟨⟨ms, more⟩, hmembers, heq⟩ := exists_of_map_eq_ok h
      cases heq
      exact .object (ih.members (List.forall_mem_nil _) hmembers)
  · exact isWritable_of_plainValue h

theorem ReadsWritable.items_succ {rounds : Nat} (ih : ReadsWritable rounds) {cs rest : List Char} {js : List Json}
    (h : Json.items (rounds + 1) cs = .ok (js, rest)) : ∀ j ∈ js, j.IsWritable := by
  rw [Json.items] at h
  obtain ⟨⟨j, more⟩, hvalue, h⟩ := exists_of_bind_eq_ok h
  dsimp only at h
  split at h
  · cases h
    intro i hi
    exact List.mem_singleton.mp hi ▸ ih.value hvalue
  · obtain ⟨⟨js, more⟩, hitems, heq⟩ := exists_of_bind_eq_ok h
    cases heq
    intro i hi
    rcases List.mem_cons.mp hi with rfl | hi
    · exact ih.value hvalue
    · exact ih.items hitems i hi
  · cases h

theorem ReadsWritable.members_succ {rounds : Nat} (ih : ReadsWritable rounds) {cs rest : List Char}
    {before ms : List (String × Json)} (hbefore : ∀ m ∈ before, m.2.IsWritable)
    (h : memberList (rounds + 1) before cs = .ok (ms, rest)) : ∀ m ∈ ms, m.2.IsWritable := by
  by_cases hquote : cs.head? = some '"'
  · obtain ⟨cs, rfl⟩ := List.head?_eq_some_iff.mp hquote
    rw [memberList] at h
    obtain ⟨⟨name, more⟩, -, h⟩ := exists_of_bind_eq_ok h
    dsimp only at h
    split at h
    · obtain ⟨⟨j, more⟩, hvalue, h⟩ := exists_of_bind_eq_ok h
      have hadded : ∀ m ∈ setMember name j before, m.2.IsWritable := by
        intro m hm
        rcases mem_setMember hm with hm | hm
        · exact hbefore m hm
        · exact hm ▸ ih.value hvalue
      dsimp only at h
      split at h
      · cases h
        exact hadded
      · exact ih.members hadded h
      · cases h
    · cases h
  · rw [memberList] at h
    · cases h
    · rintro cs rfl
      exact hquote rfl

/-- Nothing is read that could not be written. -/
theorem readsWritable (rounds : Nat) : ReadsWritable rounds := by
  induction rounds with
  | zero => exact readsWritable_zero
  | succ rounds ih => exact ⟨ih.value_succ, ih.items_succ, ih.members_succ⟩

theorem exists_value_of_parse {cs : List Char} (h : parse cs = .ok j) :
    ∃ rounds start rest, value rounds start = .ok (j, rest) := by
  cases hread : readAll cs with
  | error stop =>
    rw [parse, hread] at h
    cases h
  | ok i =>
    rw [parse, hread] at h
    cases h
    rw [readAll] at hread
    split at hread
    · cases hread
    · obtain ⟨⟨i, rest⟩, hvalue, h⟩ := exists_of_bind_eq_ok hread
      dsimp only at h
      split at h
      · cases h
        exact ⟨_, _, rest, hvalue⟩
      · cases h

theorem isWritable_of_parse {cs : List Char} (h : parse cs = .ok j) : j.IsWritable := by
  obtain ⟨rounds, _, _, hvalue⟩ := exists_value_of_parse h
  exact (readsWritable rounds).value hvalue

/-- A plain value is read back exactly if it may be written. -/
theorem parse_write_iff (h : IsPlain asciiOnly j) : parse (write asciiOnly j).toList = .ok j ↔ j.IsWritable :=
  ⟨isWritable_of_parse, parse_write h⟩

end Deflatten.Json
