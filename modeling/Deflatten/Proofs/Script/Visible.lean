import Deflatten.Script.Basic
/-!
# Visible text

A statement is never printed as nothing or as space alone: some word or mark is written whatever its parts are
(`Printer.showsText_statement`). So a list of statements that is not empty is printed as a text that is not empty
(`Printer.printStatements_ne_empty`).
-/

namespace Deflatten.Script.Printer

/-- Whether a text has a character that is no space. -/
def IsVisible (s : String) : Prop := ∃ c ∈ s.toList, Space.isSpace c = false

instance (s : String) : Decidable (IsVisible s) :=
  decidable_of_iff (s.toList.any fun c => !Space.isSpace c) (by simp [IsVisible])

theorem IsVisible.append_right {a b : String} (h : IsVisible b) : IsVisible (a ++ b) := by
  obtain ⟨c, hc, hspace⟩ := h
  exact ⟨c, by rw [String.toList_append]; exact List.mem_append_right _ hc, hspace⟩

theorem IsVisible.append_left {a b : String} (h : IsVisible a) : IsVisible (a ++ b) := by
  obtain ⟨c, hc, hspace⟩ := h
  exact ⟨c, by rw [String.toList_append]; exact List.mem_append_left _ hc, hspace⟩

theorem IsVisible.join_left {a : String} (h : IsVisible a) (b : String) : IsVisible (join a b) := by
  rw [join]
  split
  · split
    · exact h.append_left
    · exact h.append_left.append_left
  · exact h.append_left

/-- Whatever text comes of printing is visible. -/
def ShowsText (x : Printing String) : Prop := ∀ s, x = .ok s → IsVisible s

namespace ShowsText

theorem pure {s : String} (h : IsVisible s) : ShowsText (pure s) := by
  intro s' hs
  cases hs
  exact h

theorem throw (e : Refusal) : ShowsText (throw e) := by
  intro s hs
  cases hs

theorem bind {α : Type} {x : Printing α} {f : α → Printing String} (h : ∀ a, ShowsText (f a)) :
    ShowsText (x >>= f) := by
  intro s hs
  cases x with
  | error e => cases hs
  | ok a => exact h a s hs

/-- It is enough to know what comes of the first part. -/
theorem bind_of {x : Printing String} {f : String → Printing String} (hx : ShowsText x)
    (h : ∀ a, IsVisible a → ShowsText (f a)) : ShowsText (x >>= f) := by
  intro s hs
  cases hx' : x with
  | error e => rw [hx'] at hs; cases hs
  | ok a =>
    rw [hx'] at hs
    exact h a (hx a hx') s hs

theorem ite {c : Prop} [Decidable c] {x y : Printing String} (hx : ShowsText x) (hy : ShowsText y) :
    ShowsText (if c then x else y) := by
  split
  · exact hx
  · exact hy

end ShowsText

variable (p : Printers) (level : Nat) (t : Tree)

/-! ## Statements of one kind -/

theorem showsText_bracedText (ts : List Tree) : ShowsText (bracedText p level ts) :=
  .bind fun _ => .pure (.append_right (by decide))

theorem showsText_directiveText : ShowsText (directiveText t) := by
  unfold directiveText
  refine .ite (.bind fun _ => .pure (.append_right (by decide))) ?_
  exact .bind fun _ => .bind fun _ => .pure (.append_right (by decide))

theorem showsText_expressionStatement : ShowsText (expressionStatement p level t) := by
  unfold expressionStatement
  refine .bind fun _ => .ite (.pure (by decide)) (.ite ?_ ?_)
  · exact .pure (.append_right (by decide))
  · exact .pure (.append_right (by decide))

theorem showsText_headText (word : String) : ShowsText (headText p level word t) := by
  unfold headText
  refine .bind fun s => .pure ?_
  rw [parenthesised]
  exact .append_right (.append_right (by decide))

theorem showsText_ifText : ShowsText (ifText p level t) := by
  unfold ifText
  refine .bind_of (showsText_headText p level _ _) fun head hhead => .ite ?_ ?_
  · exact .bind fun _ => .pure hhead.append_left
  · refine .bind fun _ => .bind fun _ => .ite ?_ ?_
    · exact .bind fun _ => .bind fun _ => .pure hhead.append_left.append_left.append_left
    · exact .bind fun _ => .bind fun _ => .pure hhead.append_left.append_left.append_left

theorem showsText_declarationText (allowIn : Bool) : ShowsText (declarationText p level allowIn t) :=
  .bind fun _ => .bind fun _ => .pure (.append_right (by decide))

theorem showsText_functionText : ShowsText (functionText p level t) := by
  unfold functionText
  refine .bind fun _ => .bind fun _ => .pure ?_
  refine IsVisible.append_left (IsVisible.append_left (IsVisible.append_right ?_))
  split <;> decide

theorem showsText_classText : ShowsText (classText p level t) := by
  have hword : IsVisible "class" := by decide
  have hbody : ∀ name heritage, ShowsText (do
      return join (join "class" name) heritage ++ " " ++ (← p.statement level true (t.get "body"))) :=
    fun name heritage => .bind fun _ => .pure ((hword.join_left name).join_left heritage).append_left.append_left
  unfold classText
  refine .ite (.bind fun _ => .ite ?_ ?_) (.bind fun _ => .ite ?_ ?_)
  all_goals exact .bind fun _ => hbody _ _

theorem showsText_argumentText (word : String) : ShowsText (argumentText p level word t) :=
  .bind fun _ => .pure (.append_right (by decide))

theorem showsText_returnText : ShowsText (returnText p level t) := by
  unfold returnText
  exact .ite (.pure (by decide)) (showsText_argumentText p level t _)

theorem showsText_jumpText (word : String) : ShowsText (jumpText word t) := by
  unfold jumpText
  refine .ite (.pure (.append_right (by decide))) ?_
  exact .bind fun _ => .bind fun _ => .pure (.append_right (by decide))

theorem showsText_doText : ShowsText (doText p level t) := by
  unfold doText
  exact .bind fun _ => .bind fun _ => .pure (.append_right (by decide))

theorem showsText_forText : ShowsText (forText p level t) := by
  unfold forText
  refine .bind fun _ => .bind fun _ => .bind fun _ => .bind fun _ => .pure ?_
  exact .append_left (.append_right (by decide))

theorem showsText_forEachText (word : String) : ShowsText (forEachText p level word t) := by
  unfold forEachText
  refine .bind fun _ => .bind fun _ => .bind fun _ => .pure ?_
  refine IsVisible.append_left (IsVisible.append_left ?_)
  split <;> decide

theorem showsText_labeledText : ShowsText (labeledText p level t) := by
  unfold labeledText
  refine .bind fun _ => .bind fun _ => .bind fun _ => .pure ?_
  exact .append_left (.append_right (by decide))

theorem showsText_switchText : ShowsText (switchText p level t) := by
  unfold switchText
  exact .bind fun _ => .bind fun _ => .pure (.append_right (by decide))

theorem showsText_withHandlers (goesOn : Bool) {text : String} (h : IsVisible text) (ts : List Tree) :
    ShowsText (withHandlers p level goesOn text ts) := by
  induction ts generalizing text with
  | nil => exact .pure h
  | cons handler handlers ih =>
    unfold withHandlers
    refine .bind fun _ => .ite ?_ (.pure (h.join_left _))
    exact .bind fun _ => .bind fun _ => ih (IsVisible.append_left (h.join_left _))

theorem showsText_tryText : ShowsText (tryText p level t) := by
  have hend : ∀ caught, IsVisible caught → ShowsText (do
      if (t.get "finalizer").isSet then
        return join caught ("finally" ++ (← attached p level (t.get "finalizer")))
      else return caught) := by
    intro caught hcaught
    exact .ite (.bind fun _ => .pure (hcaught.join_left _)) (.pure hcaught)
  unfold tryText
  refine .bind fun body => ?_
  have htext : IsVisible ("try" ++ body ++ afterBody level (t.get "block").isBlock) :=
    IsVisible.append_left (IsVisible.append_left (by decide))
  refine .ite ?_ ?_
  · exact .bind fun _ => .bind_of (showsText_withHandlers p level _ htext _) hend
  · refine .bind fun _ => .bind_of (showsText_withHandlers p level _ htext _) fun text htext => ?_
    split
    · exact .bind_of (showsText_withHandlers p level _ htext _) hend
    · exact .bind_of (showsText_withHandlers p level _ htext _) hend

theorem showsText_importText : ShowsText (importText p level t) := by
  have himport : IsVisible "import " := by decide
  have hend : ∀ head, ShowsText (do return "import " ++ head ++ " from " ++ (← moduleText p level t)) :=
    fun head => .bind fun _ => .pure himport.append_left.append_left.append_left
  unfold importText
  split
  · exact .bind fun _ => .pure himport.append_left
  · refine .bind fun _ => .ite (.bind fun _ => .ite ?_ ?_) ?_
    · exact .bind fun _ => hend _
    · exact .bind fun _ => .bind fun _ => hend _
    · exact .bind fun _ => hend _

theorem showsText_exportText : ShowsText (exportText p level t) := by
  have hexport : IsVisible "export " := by decide
  unfold exportText
  refine .ite (.bind fun _ => .pure hexport.append_left) (.ite (.pure (by decide)) ?_)
  refine .bind fun _ => .bind fun _ => .ite ?_ ?_
  · exact .bind fun _ => .pure hexport.append_left.append_left
  · exact .bind fun _ => .bind fun _ => .pure hexport.append_left.append_left

theorem showsText_exportAllText : ShowsText (exportAllText p level t) := by
  have hend : ∀ name, ShowsText (do return "export *" ++ name ++ " from " ++ (← moduleText p level t)) := by
    intro name
    refine .bind fun _ => .pure (.append_left (.append_left (.append_left ?_)))
    decide
  unfold exportAllText
  refine .ite (.bind fun _ => hend _) ?_
  exact .bind fun _ => .bind fun _ => hend _

theorem showsText_exportDefaultText : ShowsText (exportDefaultText p level t) := by
  have hexport : IsVisible "export default " := by decide
  unfold exportDefaultText
  exact .ite (.bind fun _ => .pure hexport.append_left) (.bind fun _ => .pure hexport.append_left.append_left)

/-! ## Any statement -/

/-- The types of parts that are printed like statements but stand only within one. -/
def partTags : List String := ["Program", "VariableDeclarator", "ClassBody", "SwitchCase", "CatchClause"]

/-- Whether a tree is a statement that may stand in a block. -/
def isBodyStatement (t : Tree) : Bool := isStatement t && !partTags.contains (t.tag?.getD "")

theorem showsText_statement (allowIn : Bool) (h : isBodyStatement t) : ShowsText (statement p level allowIn t) := by
  have hpart : ∀ tag ∈ partTags, t.tag?.getD "" ≠ tag := by
    rintro tag htag rfl
    rw [isBodyStatement, Bool.and_eq_true, Bool.not_eq_true', List.contains_eq_mem, decide_eq_false_iff_not] at h
    exact h.2 htag
  unfold statement
  refine .bind fun _ => ?_
  split
  next htag => exact absurd htag (hpart _ (by decide))
  next => exact showsText_bracedText p level _
  next => exact .pure (by decide)
  next => exact showsText_expressionStatement p level t
  next => exact showsText_directiveText t
  next => exact showsText_ifText p level t
  next => exact showsText_declarationText p level t allowIn
  next htag => exact absurd htag (hpart _ (by decide))
  next => exact showsText_functionText p level t
  next => exact showsText_classText p level t
  next htag => exact absurd htag (hpart _ (by decide))
  next => exact showsText_returnText p level t
  next => exact showsText_argumentText p level t _
  next => exact showsText_jumpText t _
  next => exact showsText_jumpText t _
  next => exact .bind_of (showsText_headText p level _ _) fun _ hhead => .bind fun _ => .pure hhead.append_left
  next => exact .bind_of (showsText_headText p level _ _) fun _ hhead => .bind fun _ => .pure hhead.append_left
  next => exact showsText_doText p level t
  next => exact showsText_forText p level t
  next => exact showsText_forEachText p level t _
  next => exact showsText_forEachText p level t _
  next => exact showsText_labeledText p level t
  next => exact showsText_switchText p level t
  next htag => exact absurd htag (hpart _ (by decide))
  next => exact showsText_tryText p level t
  next htag => exact absurd htag (hpart _ (by decide))
  next => exact .pure (by decide)
  next => exact showsText_importText p level t
  next => exact showsText_exportAllText p level t
  next => exact showsText_exportDefaultText p level t
  next => exact showsText_exportText p level t
  next => exact .throw _

/-- What is printed of a statement is visible. -/
theorem isVisible_of_print {t : Tree} {s : String} (h : isBodyStatement t) (hs : print t = .ok s) : IsVisible s := by
  have hroot : printRoot t = .ok s := by
    rw [print] at hs
    cases hr : printRoot t with
    | error e => rw [hr] at hs; cases hs
    | ok s' => rw [hr] at hs; cases hs; rfl
  have hstatement := h
  rw [isBodyStatement, Bool.and_eq_true, isStatement] at hstatement
  cases t with
  | node tag fs =>
    have htag : statementTags.contains tag = true := hstatement.1
    have hprinted : printRoot (.node tag fs) =
        statement (.ofDepth (Tree.node tag fs).height) 0 true (.node tag fs) := by
      show (if statementTags.contains tag then _ else _) = _
      rw [if_pos htag]
      rfl
    rw [hprinted] at hroot
    exact showsText_statement _ _ _ _ h s hroot
  | _ => contradiction

/-! ## Lists of statements -/

theorem exists_visible_dropWhile {cs : List Char} (h : ∃ c ∈ cs, Space.isSpace c = false) :
    ∃ c ∈ cs.dropWhile Space.isSpace, Space.isSpace c = false := by
  induction cs with
  | nil => exact h
  | cons d ds ih =>
    rw [List.dropWhile_cons]
    split
    · rename_i hd
      obtain ⟨c, hc, hspace⟩ := h
      rcases List.mem_cons.mp hc with rfl | hc
      · rw [hd] at hspace
        cases hspace
      · exact ih ⟨c, hc, hspace⟩
    · exact h

/-- To cut off the space at the ends leaves what is visible. -/
theorem IsVisible.trimmed {s : String} (h : IsVisible s) : IsVisible (Space.trimmed s) := by
  obtain ⟨c, hc, hspace⟩ := exists_visible_dropWhile h
  have hrev : ∃ c ∈ (s.toList.dropWhile Space.isSpace).reverse, Space.isSpace c = false :=
    ⟨c, List.mem_reverse.mpr hc, hspace⟩
  obtain ⟨d, hd, hspace'⟩ := exists_visible_dropWhile hrev
  refine ⟨d, ?_, hspace'⟩
  rw [Space.trimmed, String.toList_ofList]
  exact List.mem_reverse.mpr hd

theorem IsVisible.isEmpty {s : String} (h : IsVisible s) : s.isEmpty = false := by
  rw [String.isEmpty_eq_false_iff]
  rintro rfl
  obtain ⟨c, hc, -⟩ := h
  cases hc

/-- Statements are not printed as nothing. -/
theorem printStatements_ne_empty {t : Tree} {ts : List Tree} {s : String} (h : isBodyStatement t)
    (hs : printStatements (t :: ts) = .ok s) : s.isEmpty = false := by
  rw [printStatements, List.mapM_cons] at hs
  cases hprint : print t with
  | error e => rw [hprint] at hs; cases hs
  | ok text =>
    rw [hprint] at hs
    cases hrest : ts.mapM print with
    | error e => rw [hrest] at hs; cases hs
    | ok texts =>
      rw [hrest] at hs
      cases hs
      have hfirst := (isVisible_of_print h hprint).trimmed
      refine IsVisible.isEmpty ?_
      rw [List.map_cons, List.filter_cons, hfirst.isEmpty]
      -- The text of the first statement comes first.
      generalize (texts.map Space.trimmed).filter (fun s => !s.isEmpty) = others
      cases others with
      | nil => exact String.intercalate_singleton.symm ▸ hfirst
      | cons other others =>
        show IsVisible (" ".intercalate (Space.trimmed text :: other :: others))
        rw [String.intercalate_cons_cons]
        exact hfirst.append_left.append_left

end Deflatten.Script.Printer
