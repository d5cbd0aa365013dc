import Deflatten.Artifacts
import Deflatten.Proofs.Json.RoundTrip
/-!
# Reading artifacts back

The object that stands for a table names its members by the places of the blocks, and no two places have one name
(`BlockTable.nodup_placeNames`); its entries for blocks that are selected by integers or stand for an `else` are plain values
(`LeafBlock.isPlain_toJson`). So what is written for such a table, or for an order of integers, is read back
(`Json.parse_artifacts`), unless an integer has too many digits (`Json.parse_longIntegers`); then there is a text, but it is
not written (`BlockTable.jsonText?_eq_some_iff`, `OrderArray.jsonText?_eq_some_iff`).
-/

namespace Deflatten

theorem Scalar.isWritable_toJson_iff {v : Scalar} : v.toJson.IsWritable ↔ v.isWritable := by
  cases v with
  | null => exact iff_of_true .null rfl
  | bool b => exact iff_of_true (.bool b) rfl
  | number n => exact Json.isWritable_number_iff
  | text s => exact iff_of_true (.text s) rfl

/-! ## Blocks -/

namespace LeafBlock

/-- A block is selected by an integer, or is that of a plain `else`. -/
def IsCase (b : LeafBlock) : Prop := b.value = .text elseTag ∨ ∃ n : Int, b.value = .int n

theorem isPlain_toJson {b : LeafBlock} (h : b.IsCase) : b.toJson.IsPlain false := by
  have hvalue : b.value.toJson.IsPlain false := by
    rcases h with h | ⟨n, h⟩
    · rw [h]
      exact .text (Json.isPlainText_of_not_asciiOnly _)
    · rw [h]
      exact .int n
  have hnames : ["condition", "value", "code"].Nodup := by decide
  refine .object hnames (fun m _ => Json.isPlainText_of_not_asciiOnly m.1) fun m hm => ?_
  simp only [List.mem_cons, List.not_mem_nil, or_false] at hm
  rcases hm with rfl | rfl | rfl
  · exact .text (Json.isPlainText_of_not_asciiOnly _)
  · exact hvalue
  · exact .text (Json.isPlainText_of_not_asciiOnly _)

theorem isWritable_toJson_iff {b : LeafBlock} : b.toJson.IsWritable ↔ b.value.isWritable := by
  simp [toJson, Scalar.isWritable_toJson_iff]

end LeafBlock

/-! ## Tables -/

namespace BlockTable

theorem foldl_push (t : BlockTable) (bs : List LeafBlock) : bs.foldl push t = ⟨t.blocks ++ bs⟩ := by
  induction bs generalizing t with
  | nil => rw [List.foldl_nil, List.append_nil]
  | cons b bs ih => rw [List.foldl_cons, ih, blocks_push, List.append_assoc, List.singleton_append]

/-- The names of a number of places. -/
def placeNames (n : Nat) : List String := (List.range n).map toString

theorem nodup_placeNames (n : Nat) : (placeNames n).Nodup :=
  List.Nodup.map (fun _ _ h => Decimal.toString_injective h) List.nodup_range

theorem length_placeNames (n : Nat) : (placeNames n).length = n := by
  rw [placeNames, List.length_map, List.length_range]

/-- The members of the object for a table are named by the places of the blocks. -/
theorem toJsonWith_eq (f : LeafBlock → Json) (t : BlockTable) :
    t.toJsonWith f = .object ((placeNames t.size).zip (t.blocks.map f)) := by
  have hlength : (placeNames t.size).length = (t.blocks.map f).length := by
    rw [length_placeNames, List.length_map, size]
  have hmembers : t.blocks.mapIdx (fun i b => (toString i, f b)) = (placeNames t.size).zip (t.blocks.map f) := by
    refine List.ext_getElem ?_ fun i _ _ => ?_
    · rw [List.length_mapIdx, List.length_zip, hlength, Nat.min_self, List.length_map]
    · rw [List.getElem_mapIdx, List.getElem_zip, List.getElem_map]
      simp only [placeNames, List.getElem_map, List.getElem_range]
  rw [toJsonWith, hmembers]

theorem isPlain_toJsonWith {f : LeafBlock → Json} {t : BlockTable} (h : ∀ b ∈ t.blocks, (f b).IsPlain false) :
    (t.toJsonWith f).IsPlain false := by
  rw [toJsonWith_eq]
  refine .object ?_ (fun m _ => Json.isPlainText_of_not_asciiOnly m.1) fun m hm => ?_
  · rw [List.map_fst_zip (Nat.le_of_eq (by rw [length_placeNames, List.length_map, size]))]
    exact nodup_placeNames t.size
  · obtain ⟨b, hb, heq⟩ := List.mem_map.mp (List.of_mem_zip hm).2
    exact heq ▸ h b hb

theorem isWritable_toJsonWith_iff {f : LeafBlock → Json} {t : BlockTable} :
    (t.toJsonWith f).IsWritable ↔ ∀ b ∈ t.blocks, (f b).IsWritable := by
  rw [toJsonWith, Json.isWritable_object_iff]
  constructor
  · intro h b hb
    obtain ⟨i, hi, rfl⟩ := List.mem_iff_getElem.mp hb
    exact h _ (List.mem_mapIdx.mpr ⟨i, hi, rfl⟩)
  · intro h m hm
    obtain ⟨i, hi, rfl⟩ := List.mem_mapIdx.mp hm
    exact h _ (List.getElem_mem hi)

/-- A table is written if its values have few enough digits, and its code always. -/
theorem jsonText?_eq_some_iff {t : BlockTable} {simple : Bool} {text : String} :
    t.jsonText? simple = some text ↔
      (simple = false → ∀ b ∈ t.blocks, b.value.isWritable) ∧ t.jsonText simple = text := by
  rw [jsonText?, Json.write?_eq_some_iff, jsonText]
  refine and_congr_left fun _ => ?_
  cases simple with
  | false => simp [toJson, isWritable_toJsonWith_iff, LeafBlock.isWritable_toJson_iff]
  | true => simp [toSimpleJson, isWritable_toJsonWith_iff]

end BlockTable

/-! ## Orders -/

namespace OrderArray

/-- An order is written if its values have few enough digits. -/
theorem jsonText?_eq_some_iff {a : OrderArray} {text : String} :
    a.jsonText? = some text ↔ (∀ v ∈ a.values, v.isWritable) ∧ a.jsonText = text := by
  simp [jsonText?, Json.write?_eq_some_iff, jsonText, toJson, Scalar.isWritable_toJson_iff]

/-- The order of integers. -/
def ofIntegers (ns : List Int) (origin : Origin) : OrderArray := ⟨ns.map .int, origin⟩

theorem toJson_ofIntegers (ns : List Int) (origin : Origin) : (ofIntegers ns origin).toJson = .list (ns.map .int) := by
  rw [toJson, ofIntegers, List.map_map]
  rfl

theorem isPlain_ofIntegers (ns : List Int) (origin : Origin) : (ofIntegers ns origin).toJson.IsPlain true := by
  rw [toJson_ofIntegers]
  refine .list fun j hj => ?_
  obtain ⟨n, -, rfl⟩ := List.mem_map.mp hj
  exact .int n

end OrderArray

/-! ## Artifacts -/

open BlockTable (placeNames)

/-- The text of a table, written with or without conditions and values, is read back with the blocks at their places in
order, and the text of an order of integers is read back. Where integers are written, this is so exactly if none of them
has too many digits. -/
theorem Json.parse_artifacts (bs : List LeafBlock) (hbs : ∀ b ∈ bs, b.IsCase) (ns : List Int) (origin : Origin) :
    (placeNames bs.length).Nodup ∧
      (Json.parse ((bs.foldl BlockTable.push {}).jsonText false).toList = .ok (.object ((placeNames bs.length).zip
          (bs.map fun b => .object [("condition", .text b.condition), ("value", b.value.toJson), ("code", .text b.code)]))) ↔
        ∀ b ∈ bs, b.value.isWritable) ∧
      Json.parse ((bs.foldl BlockTable.push {}).jsonText true).toList =
        .ok (.object ((placeNames bs.length).zip (bs.map fun b => .text b.code))) ∧
      (Json.parse (OrderArray.ofIntegers ns origin).jsonText.toList = .ok (.list (ns.map .int)) ↔
        ∀ n ∈ ns, (Number.int n).isWritable) := by
  have htable : bs.foldl BlockTable.push {} = ⟨bs⟩ := BlockTable.foldl_push {} bs
  rw [htable]
  refine ⟨BlockTable.nodup_placeNames _, ?_, ?_, ?_⟩
  · have hread := parse_write_iff (BlockTable.isPlain_toJsonWith (t := ⟨bs⟩) fun b hb => LeafBlock.isPlain_toJson (hbs b hb))
    simp only [BlockTable.isWritable_toJsonWith_iff, LeafBlock.isWritable_toJson_iff] at hread
    rw [BlockTable.toJsonWith_eq] at hread
    show parse (write false (BlockTable.toJsonWith LeafBlock.toJson ⟨bs⟩)).toList = _ ↔ _
    rw [BlockTable.toJsonWith_eq]
    exact hread
  · have hread := parse_write (BlockTable.isPlain_toJsonWith (f := fun b => .text b.code) (t := ⟨bs⟩)
      fun b _ => .text (isPlainText_of_not_asciiOnly b.code)) (BlockTable.isWritable_toJsonWith_iff.mpr fun b _ => .text b.code)
    rw [BlockTable.toJsonWith_eq] at hread
    show parse (write false (BlockTable.toJsonWith (fun b => .text b.code) ⟨bs⟩)).toList = _
    rw [BlockTable.toJsonWith_eq]
    exact hread
  · have hread := parse_write_iff (OrderArray.isPlain_ofIntegers ns origin)
    simp only [OrderArray.toJson_ofIntegers, isWritable_list_iff, List.forall_mem_map, int, isWritable_number_iff] at hread
    rw [OrderArray.jsonText, OrderArray.toJson_ofIntegers]
    exact hread

/-- A block with quotes, backslashes and line ends, and that of an `else`. -/
def quotedBlocks : List LeafBlock :=
  [⟨"s === 1", .int 1, "a(\"é\\n\");\nb();"⟩, ⟨LeafBlock.elseTag, .text LeafBlock.elseTag, ""⟩]

/-- The blocks are read back at their places, and so are negative integers. -/
theorem Json.parse_quotedBlocks :
    (∀ b ∈ quotedBlocks, b.IsCase) ∧
      Json.parse ((quotedBlocks.foldl BlockTable.push {}).jsonText false).toList = .ok (.object
        [("0", .object [("condition", .text "s === 1"), ("value", .int 1), ("code", .text "a(\"é\\n\");\nb();")]),
          ("1", .object [("condition", .text "else"), ("value", .text "else"), ("code", .text "")])]) ∧
      Json.parse ((quotedBlocks.foldl BlockTable.push {}).jsonText true).toList =
        .ok (.object [("0", .text "a(\"é\\n\");\nb();"), ("1", .text "")]) ∧
      Json.parse (OrderArray.ofIntegers [3, -1] .declaration).jsonText.toList = .ok (.list [.int 3, .int (-1)]) := by
  have hcases : ∀ b ∈ quotedBlocks, b.IsCase := by
    intro b hb
    simp only [quotedBlocks, List.mem_cons, List.not_mem_nil, or_false] at hb
    rcases hb with rfl | rfl
    · exact .inr ⟨1, rfl⟩
    · exact .inl rfl
  have hnames : placeNames quotedBlocks.length = ["0", "1"] := by decide +kernel
  obtain ⟨-, htable, hsimple, horder⟩ := Json.parse_artifacts quotedBlocks hcases [3, -1] .declaration
  rw [hnames] at htable hsimple
  exact ⟨hcases, htable.mpr (by decide +kernel), hsimple, horder.mpr (by decide +kernel)⟩

/-- The integers below ten, and one of more than `Number.maxDigits` digits. -/
def longIntegers : List Int := [0, 1, 2, 3, 4, 5, 6, 7, 8, 9, (Nat.pow 16 3572 : Nat)]

/-- An order with an integer of too many digits is not read back. -/
theorem Json.parse_longIntegers : Json.parse (OrderArray.ofIntegers longIntegers .declaration).jsonText.toList ≠
    .ok (.list (longIntegers.map .int)) := by
  intro h
  have hlong : ((Nat.pow 16 3572 : Nat) : Int) ∈ longIntegers := by
    rw [longIntegers]
    exact List.mem_append_right [0, 1, 2, 3, 4, 5, 6, 7, 8, 9] (List.mem_singleton_self _)
  have hw := Json.isWritable_list_iff.mp (Json.isWritable_of_parse h) _ (List.mem_map_of_mem hlong)
  exact absurd (Json.isWritable_number_iff.mp hw) (by decide +kernel)

end Deflatten
