import Deflatten.Proofs.Tree.Fields
import Deflatten.Settings.Reader
import Mathlib.Data.List.Lex
/-!
# Which settings are read

`Settings.IsWellTyped` says of the members of an object that each has the name of a setting and a value that the setting
takes, and `Settings.given` reads every setting off by its name. Neither looks at the order of the members. The main
statement is `Settings.ofMembers_wellTyped`: the reader, which goes through the members in their order, accepts exactly
these and gives these.
-/

namespace Deflatten

namespace Json

/-- The text that a value is. -/
def text? : Json → Option String
  | .text s => some s
  | _ => none

/-- The truth value that a value is. -/
def bool? : Json → Option Bool
  | .bool b => some b
  | _ => none

theorem text?_eq_some_iff {j : Json} {s : String} : j.text? = some s ↔ j = .text s := by
  cases j <;> simp [text?]

theorem bool?_eq_some_iff {j : Json} {b : Bool} : j.bool? = some b ↔ j = .bool b := by
  cases j <;> simp [bool?]

end Json

namespace SettingName

/-- Whether a setting is on or off. -/
def isSwitch : SettingName → Bool
  | .tolerant | .lowerRanges => true
  | _ => false

/-- Whether a value is none or has the type of a setting: a switch has a truth value, any other setting a text. -/
def HasType (name : SettingName) (value : Json) : Prop :=
  value = .null ∨ if name.isSwitch then ∃ b, value = .bool b else ∃ s, value = .text s

/-- Whether a setting takes a value: it has the right type, and the source type is that of a script or of a module. -/
def Takes (name : SettingName) (value : Json) : Prop :=
  name.HasType value ∧
    (name = .sourceType → value = .null ∨ value = .text "script" ∨ value = .text "module")

theorem ofText?_eq_some_iff {s : String} {name : SettingName} : ofText? s = some name ↔ s = name.text := by
  constructor
  · intro h
    have htext := List.find?_some h
    exact (beq_iff_eq.mp htext).symm
  · rintro rfl
    exact ofText?_text name

theorem text_injective : Function.Injective text := by
  intro a b h
  have hsame := congrArg ofText? h
  rwa [ofText?_text, ofText?_text, Option.some.injEq] at hsame

theorem ofText?_eq_none_iff {s : String} : ofText? s = none ↔ ∀ name : SettingName, s ≠ name.text := by
  simp only [Option.eq_none_iff_forall_ne_some, ne_eq, ofText?_eq_some_iff]

end SettingName

namespace Settings

variable {members others : List (String × Json)}

/-- The text that the member of a setting has. -/
def textOf? (members : List (String × Json)) (name : SettingName) : Option String :=
  (members.lookup name.text).bind Json.text?

/-- The truth value that the member of a setting has. -/
def boolOf? (members : List (String × Json)) (name : SettingName) : Option Bool :=
  (members.lookup name.text).bind Json.bool?

/-- The settings that members give: each the value of its member, or else its default. -/
def given (members : List (String × Json)) : Settings where
  orderName := textOf? members .orderName
  selectorName := textOf? members .selectorName
  sourceType := (textOf? members .sourceType).getD "script"
  tolerant := (boolOf? members .tolerant).getD false
  lowerRanges := (boolOf? members .lowerRanges).getD true
  annotationPrefix := (textOf? members .annotationPrefix).getD Replay.defaultPrefix
  outputDirectory := (textOf? members .outputDirectory).map .ofText

/-- Whether each member has the name of a setting and a value that the setting takes. -/
def IsWellTyped (members : List (String × Json)) : Prop :=
  ∀ m ∈ members, ∃ name : SettingName, m.1 = name.text ∧ name.Takes m.2

/-! ## Members one by one -/

/-- The overrides that members give. -/
def overridesOf (members : List (String × Json)) : Overrides where
  orderName := textOf? members .orderName
  selectorName := textOf? members .selectorName
  sourceType := textOf? members .sourceType
  tolerant := boolOf? members .tolerant
  lowerRanges := boolOf? members .lowerRanges
  annotationPrefix := textOf? members .annotationPrefix
  outputDirectory := (textOf? members .outputDirectory).map .ofText

theorem override_overridesOf (members : List (String × Json)) : ({} : Settings).override (overridesOf members) =
    given members := by
  simp [override, overridesOf, given]

@[simp] theorem textOf?_nil (name : SettingName) : textOf? [] name = none := rfl

@[simp] theorem boolOf?_nil (name : SettingName) : boolOf? [] name = none := rfl

theorem textOf?_cons (name n : SettingName) (value : Json) (members : List (String × Json)) :
    textOf? ((n.text, value) :: members) name = if name = n then value.text? else textOf? members name := by
  rw [textOf?, List.lookup_cons]
  split
  · next h => rw [if_pos (SettingName.text_injective (beq_iff_eq.mp h)), Option.bind_some]
  · next h => rw [if_neg (fun heq => by simp [heq] at h), textOf?]

theorem boolOf?_cons (name n : SettingName) (value : Json) (members : List (String × Json)) :
    boolOf? ((n.text, value) :: members) name = if name = n then value.bool? else boolOf? members name := by
  rw [boolOf?, List.lookup_cons]
  split
  · next h => rw [if_pos (SettingName.text_injective (beq_iff_eq.mp h)), Option.bind_some]
  · next h => rw [if_neg (fun heq => by simp [heq] at h), boolOf?]

/-- A value is added if and only if it has the type of its setting, on top of what was there. -/
theorem add_eq_ok_iff {o o' : Overrides} {name : SettingName} {value : Json} :
    o.add name value = .ok o' ↔ name.HasType value ∧ o' = (overridesOf [(name.text, value)]).onTopOf o := by
  have hadd : o.add name value = .ok o' ↔
      name.HasType value ∧ (overridesOf [(name.text, value)]).onTopOf o = o' := by
    cases name <;> cases value <;>
      simp [Overrides.add, SettingName.HasType, SettingName.isSwitch, overridesOf, Overrides.onTopOf, textOf?_cons,
        boolOf?_cons, Json.text?, Json.bool?]
  rw [hadd, eq_comm (a := o')]

/-- The members after a first one, which has another name, are on top of it. -/
theorem overridesOf_cons {name : SettingName} {value : Json} (h : name.text ∉ members.map Prod.fst) :
    overridesOf ((name.text, value) :: members) =
      (overridesOf members).onTopOf (overridesOf [(name.text, value)]) := by
  have hnone : members.lookup name.text = none := by
    rw [List.lookup_eq_none_iff]
    intro m hm
    have hne : name.text ≠ m.1 := fun heq => h (heq ▸ List.mem_map_of_mem hm)
    simpa using hne
  have htext : textOf? members name = none := by rw [textOf?, hnone, Option.bind_none]
  have hbool : boolOf? members name = none := by rw [boolOf?, hnone, Option.bind_none]
  cases name <;> simp [overridesOf, Overrides.onTopOf, textOf?_cons, boolOf?_cons, htext, hbool]

theorem onTopOf_assoc (a b c : Overrides) : (a.onTopOf b).onTopOf c = a.onTopOf (b.onTopOf c) := by
  simp only [Overrides.onTopOf, orElse_assoc]

/-- Members that are all of settings are added if and only if each has a value of the right type. -/
theorem foldlM_addMember_eq_ok_iff {o o' : Overrides} (hnodup : (members.map Prod.fst).Nodup)
    (hknown : ∀ m ∈ members, ∃ name : SettingName, m.1 = name.text) :
    members.foldlM Overrides.addMember o = .ok o' ↔
      (∀ m ∈ members, ∀ name : SettingName, m.1 = name.text → name.HasType m.2) ∧
        o' = (overridesOf members).onTopOf o := by
  induction members generalizing o with
  | nil =>
    rw [List.foldlM_nil]
    refine ⟨fun h => ⟨by simp, ?_⟩, fun ⟨_, h⟩ => ?_⟩
    · cases h
      rfl
    · rw [h]
      rfl
  | cons m ms ih =>
    obtain ⟨s, value⟩ := m
    obtain ⟨⟨name, hname⟩, hrest⟩ := List.forall_mem_cons.mp hknown
    obtain rfl : s = name.text := hname
    rw [List.map_cons, List.nodup_cons] at hnodup
    have hself : (∀ n : SettingName, name.text = n.text → n.HasType value) ↔ name.HasType value :=
      ⟨fun h => h name rfl, fun h n hn => SettingName.text_injective hn ▸ h⟩
    have hmember : o.addMember (name.text, value) = o.add name value := by
      rw [Overrides.addMember, SettingName.ofText?_text]
    rw [List.foldlM_cons, hmember, List.forall_mem_cons, hself]
    cases hadd : o.add name value with
    | error e =>
      have hnot : ¬name.HasType value := fun htype => by
        rw [add_eq_ok_iff.mpr ⟨htype, rfl⟩] at hadd
        cases hadd
      exact iff_of_false (fun h => by cases h) fun h => hnot h.1.1
    | ok o₁ =>
      obtain ⟨htype, rfl⟩ := add_eq_ok_iff.mp hadd
      rw [overridesOf_cons hnodup.1, onTopOf_assoc, and_iff_right htype]
      exact ih hnodup.2 hrest

/-! ## Names that no setting has -/

theorem mem_unknownNames_iff {s : String} :
    s ∈ unknownNames members ↔ s ∈ members.map Prod.fst ∧ ∀ name : SettingName, s ≠ name.text := by
  rw [unknownNames, List.mem_mergeSort, List.mem_filter, Option.isNone_iff_eq_none,
    SettingName.ofText?_eq_none_iff]

theorem unknownNames_eq_nil_iff :
    unknownNames members = [] ↔ ∀ m ∈ members, ∃ name : SettingName, m.1 = name.text := by
  simp only [List.eq_nil_iff_forall_not_mem, mem_unknownNames_iff, not_and, not_forall, not_not,
    ne_eq, List.mem_map, forall_exists_index, and_imp]
  exact ⟨fun h m hm => h m.1 m hm rfl, fun h s m hm hs => hs ▸ h m hm⟩

theorem precedes_iff {s t : String} :
    Surrogate.precedes s t = true ↔ List.Lex (· < ·) (Surrogate.codePoints s) (Surrogate.codePoints t) := by
  rw [Surrogate.precedes, List.lex_eq_true_iff_lex]
  simp only [Nat.blt_eq]

/-- The names are listed by their code points, each once. -/
theorem pairwise_unknownNames (hnodup : (members.map Prod.fst).Nodup) :
    (unknownNames members).Pairwise fun s t =>
      List.Lex (· < ·) (Surrogate.codePoints s) (Surrogate.codePoints t) := by
  have hlt : ∀ s t, Surrogate.precedes s t = true ↔ Surrogate.codePoints s < Surrogate.codePoints t :=
    fun s t => precedes_iff
  have hle : ∀ s t, (!Surrogate.precedes t s) = true ↔ Surrogate.codePoints s ≤ Surrogate.codePoints t := by
    intro s t
    rw [Bool.not_eq_true', ← Bool.not_eq_true, hlt, not_lt]
  have hsorted : (unknownNames members).Pairwise fun s t => (!Surrogate.precedes t s) = true := by
    refine List.pairwise_mergeSort (fun s t u hst htu => ?_) (fun s t => ?_) _
    · rw [hle] at hst htu ⊢
      exact le_trans hst htu
    · rw [Bool.or_eq_true, hle, hle]
      exact le_total _ _
  have hdistinct : (unknownNames members).Nodup :=
    (List.mergeSort_perm _ _).nodup_iff.mpr (hnodup.filter _)
  refine (hsorted.and hdistinct).imp fun {s t} ⟨hst, hne⟩ => ?_
  have hpoints : Surrogate.codePoints s ≠ Surrogate.codePoints t := fun heq => by
    have htext := congrArg Surrogate.text heq
    rw [Surrogate.text_codePoints, Surrogate.text_codePoints] at htext
    exact hne htext
  exact lt_of_le_of_ne ((hle s t).mp hst) hpoints

/-! ## All members -/

theorem isReadable_iff {s : Settings} : s.isReadable ↔ s.sourceType = "script" ∨ s.sourceType = "module" := by
  rw [isReadable]
  generalize s.sourceType = name
  unfold Script.SourceType.ofName?
  split <;> simp_all

/-- The text of a setting is that of the member with its name. -/
theorem textOf?_eq_some_iff (hnodup : (members.map Prod.fst).Nodup) {name : SettingName} {s : String} :
    textOf? members name = some s ↔ (name.text, .text s) ∈ members := by
  rw [textOf?, Option.bind_eq_some_iff]
  simp only [Json.text?_eq_some_iff, exists_eq_right]
  exact ⟨Tree.mem_of_lookup, Tree.lookup_of_mem hnodup⟩

theorem boolOf?_eq_some_iff (hnodup : (members.map Prod.fst).Nodup) {name : SettingName} {b : Bool} :
    boolOf? members name = some b ↔ (name.text, .bool b) ∈ members := by
  rw [boolOf?, Option.bind_eq_some_iff]
  simp only [Json.bool?_eq_some_iff, exists_eq_right]
  exact ⟨Tree.mem_of_lookup, Tree.lookup_of_mem hnodup⟩

/-- Among members of the right types, the source type that is given can be read if and only if its member says so. -/
theorem isReadable_given_iff (hnodup : (members.map Prod.fst).Nodup)
    (htypes : ∀ m ∈ members, ∀ name : SettingName, m.1 = name.text → name.HasType m.2) :
    (given members).isReadable ↔ ∀ m ∈ members, m.1 = SettingName.sourceType.text →
      m.2 = .null ∨ m.2 = .text "script" ∨ m.2 = .text "module" := by
  rw [isReadable_iff, given]
  constructor
  · rintro h ⟨_, value⟩ hm rfl
    rcases htypes _ hm .sourceType rfl with hnull | ⟨s, rfl⟩
    · exact .inl hnull
    · rw [(textOf?_eq_some_iff hnodup).mpr hm, Option.getD_some] at h
      exact .inr (h.imp (congrArg Json.text) (congrArg Json.text))
  · intro h
    cases htext : textOf? members .sourceType with
    | none => exact .inl rfl
    | some s => simpa using h _ ((textOf?_eq_some_iff hnodup).mp htext) rfl

theorem isWellTyped_iff : IsWellTyped members ↔
    (∀ m ∈ members, ∃ name : SettingName, m.1 = name.text) ∧
      (∀ m ∈ members, ∀ name : SettingName, m.1 = name.text → name.HasType m.2) ∧
      ∀ m ∈ members, m.1 = SettingName.sourceType.text →
        m.2 = .null ∨ m.2 = .text "script" ∨ m.2 = .text "module" := by
  constructor
  · intro h
    refine ⟨fun m hm => (h m hm).imp fun _ h => h.1, fun m hm n hn => ?_, fun m hm hn => ?_⟩
    · obtain ⟨name, hname, htakes⟩ := h m hm
      exact SettingName.text_injective (hname.symm.trans hn) ▸ htakes.1
    · obtain ⟨name, hname, htakes⟩ := h m hm
      exact htakes.2 (SettingName.text_injective (hname.symm.trans hn))
  · rintro ⟨hknown, htypes, hreadable⟩ m hm
    obtain ⟨name, hname⟩ := hknown m hm
    exact ⟨name, hname, htypes m hm name hname, fun heq => hreadable m hm (heq ▸ hname)⟩

/-- Members are accepted if and only if they are well typed, and then they give what each says by its name. -/
theorem ofMembers_eq_ok_iff (hnodup : (members.map Prod.fst).Nodup) {s : Settings} :
    ofMembers members = .ok s ↔ IsWellTyped members ∧ s = given members := by
  rw [isWellTyped_iff]
  by_cases hknown : ∀ m ∈ members, ∃ name : SettingName, m.1 = name.text
  · rw [and_iff_right hknown, ofMembers, unknownNames_eq_nil_iff.mpr hknown]
    cases hoverrides : Overrides.ofMembers members with
    | error e =>
      have hnot : ¬∀ m ∈ members, ∀ name : SettingName, m.1 = name.text → name.HasType m.2 := fun htypes => by
        rw [Overrides.ofMembers, (foldlM_addMember_eq_ok_iff hnodup hknown).mpr ⟨htypes, rfl⟩] at hoverrides
        cases hoverrides
      exact iff_of_false (fun h => by cases h) fun h => hnot h.1.1
    | ok o =>
      obtain ⟨htypes, rfl⟩ := (foldlM_addMember_eq_ok_iff hnodup hknown).mp hoverrides
      have hgiven : ({} : Settings).override ((overridesOf members).onTopOf {}) = given members := by
        rw [← override_override]
        exact override_overridesOf members
      rw [and_iff_right htypes, ← isReadable_given_iff hnodup htypes, ← hgiven]
      change (if _ then Except.ok _ else Except.error _) = _ ↔ _
      split
      · next hreadable => rw [Except.ok.injEq, and_iff_right hreadable, eq_comm]
      · next hreadable => exact iff_of_false (fun h => by cases h) fun h => hreadable h.1
  · refine iff_of_false (fun h => ?_) fun h => hknown h.1.1
    rw [ofMembers] at h
    split at h
    · next hnone => exact hknown (unknownNames_eq_nil_iff.mp hnone)
    · cases h

/-- Where a name is no setting's, this is said before anything else: all such names, each once, by their code points. -/
theorem ofMembers_of_unknown (hnodup : (members.map Prod.fst).Nodup)
    (h : ∃ m ∈ members, ∀ name : SettingName, m.1 ≠ name.text) :
    ∃ names, ofMembers members = .error (.unknownNames names) ∧
      (∀ s, s ∈ names ↔ s ∈ members.map Prod.fst ∧ ∀ name : SettingName, s ≠ name.text) ∧
      names.Pairwise fun s t => List.Lex (· < ·) (Surrogate.codePoints s) (Surrogate.codePoints t) := by
  refine ⟨unknownNames members, ?_, fun s => mem_unknownNames_iff, pairwise_unknownNames hnodup⟩
  rw [ofMembers]
  split
  · next hnone =>
    obtain ⟨m, hm, hunknown⟩ := h
    obtain ⟨name, hname⟩ := unknownNames_eq_nil_iff.mp hnone m hm
    exact absurd hname (hunknown name)
  · rfl

/-! ## Order and members without a value -/

/-- Settings that are found in one list of members and in another are the same. -/
theorem given_congr (hmembers : (members.map Prod.fst).Nodup) (hothers : (others.map Prod.fst).Nodup)
    (hsame : ∀ m : String × Json, m.2 ≠ .null → (m ∈ members ↔ m ∈ others)) : given members = given others := by
  have htext : ∀ name, textOf? members name = textOf? others name := fun name => Option.ext fun s => by
    rw [textOf?_eq_some_iff hmembers, textOf?_eq_some_iff hothers, hsame _ (by simp)]
  have hbool : ∀ name, boolOf? members name = boolOf? others name := fun name => Option.ext fun b => by
    rw [boolOf?_eq_some_iff hmembers, boolOf?_eq_some_iff hothers, hsame _ (by simp)]
  simp only [given, htext, hbool]

/-- Neither the order of the members nor those of settings without a value say anything. -/
theorem toOption_ofMembers_congr {nulls : List (String × Json)} (hnodup : (members.map Prod.fst).Nodup)
    (hperm : members.Perm (others ++ nulls))
    (hnulls : ∀ m ∈ nulls, m.2 = .null ∧ ∃ name : SettingName, m.1 = name.text) :
    (ofMembers others).toOption = (ofMembers members).toOption := by
  have hothers : (others.map Prod.fst).Nodup := by
    have happend : ((others ++ nulls).map Prod.fst).Nodup := (hperm.map Prod.fst).nodup_iff.mp hnodup
    rw [List.map_append] at happend
    exact happend.of_append_left
  have hsame : given others = given members := by
    refine given_congr hothers hnodup fun m hm => ?_
    rw [hperm.mem_iff, List.mem_append, or_iff_left fun hnull => hm (hnulls m hnull).1]
  have htyped : IsWellTyped others ↔ IsWellTyped members := by
    have hnull : ∀ m ∈ nulls, ∃ name : SettingName, m.1 = name.text ∧ name.Takes m.2 := by
      rintro m hm
      obtain ⟨hvalue, name, hname⟩ := hnulls m hm
      exact ⟨name, hname, .inl hvalue, fun _ => .inl hvalue⟩
    simp only [IsWellTyped, hperm.mem_iff, List.forall_mem_append]
    exact ⟨fun h => ⟨h, hnull⟩, And.left⟩
  have hoption : ∀ {ms : List (String × Json)} {s : Settings}, (ofMembers ms).toOption = some s ↔ ofMembers ms = .ok s := by
    intro ms s
    cases ofMembers ms <;> simp [Except.toOption]
  ext s
  rw [hoption, hoption, ofMembers_eq_ok_iff hothers, ofMembers_eq_ok_iff hnodup, hsame, htyped]

/-- The reader accepts exactly the well-typed members of an object, and gives each setting the value of its member, or
its default where there is none. Neither the order of the members nor those of settings without a value make a
difference. Where a name is no setting's, the error lists all such names by their code points, whatever the other members
are. -/
theorem ofMembers_wellTyped (hnodup : (members.map Prod.fst).Nodup) :
    (∀ s, ofMembers members = .ok s ↔ IsWellTyped members ∧ s = given members) ∧
      (∀ others nulls, members.Perm (others ++ nulls) →
        (∀ m ∈ nulls, m.2 = .null ∧ ∃ name : SettingName, m.1 = name.text) →
        (ofMembers others).toOption = (ofMembers members).toOption) ∧
      ((∃ m ∈ members, ∀ name : SettingName, m.1 ≠ name.text) →
        ∃ names, ofMembers members = .error (.unknownNames names) ∧
          (∀ s, s ∈ names ↔ s ∈ members.map Prod.fst ∧ ∀ name : SettingName, s ≠ name.text) ∧
          (names.Pairwise fun s t => List.Lex (· < ·) (Surrogate.codePoints s) (Surrogate.codePoints t)) ∧
          (SettingsError.unknownNames names).message = "unknown option(s): " ++ ", ".intercalate names) := by
  refine ⟨fun s => ofMembers_eq_ok_iff hnodup, fun others nulls => toOption_ofMembers_congr hnodup, fun h => ?_⟩
  obtain ⟨names, herror, hmem, hsorted⟩ := ofMembers_of_unknown hnodup h
  exact ⟨names, herror, hmem, hsorted, rfl⟩

/-- Members for a module, the first without a value. -/
def moduleMembers : List (String × Json) :=
  [("condition_var", .null), ("output_dir", .text "out//js/"), ("tolerant", .bool true), ("source_type", .text "module")]

/-- Members of which the first has a value of the wrong type and the others are no setting's. -/
def strayMembers : List (String × Json) := [("tolerant", .int 1), ("verbose", .null), ("Bogus", .text "x")]

/-- In another order and without the member that says nothing, the members give the same settings. A name that is no
setting's is refused even if its member says nothing. -/
theorem ofMembers_wellTyped_moduleMembers :
    (moduleMembers.map Prod.fst).Nodup ∧ IsWellTyped moduleMembers ∧
      (ofMembers [("source_type", .text "module"), ("tolerant", .bool true), ("output_dir", .text "out//js/")]).toOption =
        some { sourceType := "module", tolerant := true, outputDirectory := some (.ofText "out/js") } ∧
      (strayMembers.map Prod.fst).Nodup ∧
      ∃ names, ofMembers strayMembers = .error (.unknownNames names) ∧ "Bogus" ∈ names ∧ "verbose" ∈ names := by
  have hnodup : (moduleMembers.map Prod.fst).Nodup := by decide
  have hread : ofMembers moduleMembers =
      .ok { sourceType := "module", tolerant := true, outputDirectory := some (.ofText "out/js") } := by decide +kernel
  obtain ⟨haccepts, horder, -⟩ := ofMembers_wellTyped hnodup
  have hstray : (strayMembers.map Prod.fst).Nodup := by decide
  have hbogus : ∀ name : SettingName, "Bogus" ≠ name.text := by
    intro name
    cases name <;> decide
  have hverbose : ∀ name : SettingName, "verbose" ≠ name.text := by
    intro name
    cases name <;> decide
  obtain ⟨-, -, hunknown⟩ := ofMembers_wellTyped hstray
  obtain ⟨names, herror, hmem, -⟩ := hunknown ⟨("Bogus", .text "x"), by simp [strayMembers], hbogus⟩
  refine ⟨hnodup, ((haccepts _).mp hread).1, ?_, hstray, names, herror, (hmem _).mpr ⟨by decide, hbogus⟩,
    (hmem _).mpr ⟨by decide, hverbose⟩⟩
  rw [horder _ [("condition_var", .null)] (List.reverse_perm _).symm, hread]
  · rfl
  · simpa using ⟨.selectorName, rfl⟩

end Settings
end Deflatten
