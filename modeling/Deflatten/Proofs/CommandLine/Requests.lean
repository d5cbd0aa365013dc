import Deflatten.CommandLine.Request
import Deflatten.Proofs.Json.RoundTrip
/-!
# Source types of requests

The words of a command line are taken one by one, and a source type is taken only if it is one of the choices. So the
source type of a request, if it has one, is that of a script or of a module (`CommandLine.choosesType_of_arguments`).
-/

namespace Deflatten.CommandLine

open Json (exists_of_bind_eq_ok exists_of_map_eq_ok)

/-- Whether the source type of a request, if it has one, is that of a script or of a module. -/
def Request.ChoosesType (r : Request) : Prop := ∀ name, r.sourceType = some name → name = "script" ∨ name = "module"

namespace Request.ChoosesType

variable {r r' : Request} {f : Flag}

theorem turnOn (hr : r.ChoosesType) (h : r.turnOn f = .ok r') : r'.ChoosesType := by
  cases f with
  | tolerant | keepRanges =>
    cases h
    exact hr
  | verbose | quiet =>
    rw [Request.turnOn] at h
    split at h <;> cases h
    exact hr
  | _ => cases h

theorem give {value : String} (hr : r.ChoosesType) (h : r.give f value = .ok r') : r'.ChoosesType := by
  cases f with
  | config | outputDirectory =>
    cases h
    exact hr
  | sourceType =>
    rw [Request.give] at h
    split at h <;> cases h
    next hchoice =>
    rintro name ⟨⟩
    simpa [sourceTypes] using hchoice
  | _ => cases h

theorem putPlain (hr : r.ChoosesType) (place : Nat) (value : String) : (r.putPlain place value).ChoosesType := by
  unfold Request.putPlain
  split <;> exact hr

theorem turnOnAll {fs : List Flag} (hr : r.ChoosesType) (h : fs.foldlM Request.turnOn r = .ok r') :
    r'.ChoosesType := by
  induction fs generalizing r with
  | nil =>
    cases h
    exact hr
  | cons f fs ih =>
    rw [List.foldlM_cons] at h
    obtain ⟨r₁, hone, h⟩ := exists_of_bind_eq_ok h
    exact ih (hr.turnOn hone) h

end Request.ChoosesType

namespace Progress

variable {p q : Progress}

theorem choosesType_takePlain (hp : p.request.ChoosesType) (s : String) : (p.takePlain s).request.ChoosesType := by
  have hplace : ∀ place, (p.takeAt place s).request.ChoosesType := by
    intro place
    rw [takeAt]
    dsimp only
    split
    · exact hp
    · exact hp.putPlain place s
  rw [takePlain]
  split
  · exact hplace 0
  · split
    · exact hplace _
    · exact hp
  · exact hp

theorem choosesType_takeMark (hp : p.request.ChoosesType) : p.takeMark.request.ChoosesType := by
  rw [takeMark]
  split <;> exact hp

theorem choosesType_change {f : Request → Except NoRequest Request}
    (hf : ∀ {r r' : Request}, r.ChoosesType → f r = .ok r' → r'.ChoosesType) (hp : p.request.ChoosesType)
    (h : p.change f = .ok q) : q.request.ChoosesType := by
  obtain ⟨r, hr, rfl⟩ := exists_of_map_eq_ok h
  exact hf hp hr

theorem choosesType_takeShort {f : Flag} {more : List Char} (hp : p.request.ChoosesType)
    (h : p.takeShort f more = .ok q) : q.request.ChoosesType := by
  obtain ⟨fs, -, h⟩ := exists_of_bind_eq_ok h
  exact choosesType_change Request.ChoosesType.turnOnAll hp h

/-- Every word keeps the source type one of the choices. -/
theorem choosesType_takeAll {ws : List Word} (hp : p.request.ChoosesType) (h : p.takeAll ws = .ok q) :
    q.request.ChoosesType := by
  fun_induction takeAll p ws with
  | case1 p =>
    cases h
    exact hp
  | case2 p s ws ih => exact ih (choosesType_takePlain hp s) h
  | case3 p ws ih => exact ih (choosesType_takeMark hp) h
  | case4 p s ws ih => exact ih hp h
  | case5 p f value ws ih =>
    obtain ⟨p', hgive, h⟩ := exists_of_bind_eq_ok h
    exact ih p' (choosesType_change Request.ChoosesType.give (p := p.endPlain) hp hgive) h
  | case6 p f more ws ih =>
    obtain ⟨p', hshort, h⟩ := exists_of_bind_eq_ok h
    exact ih p' (choosesType_takeShort (p := p.endPlain) hp hshort) h
  | case7 p f _ value ws ih =>
    obtain ⟨p', hgive, h⟩ := exists_of_bind_eq_ok h
    exact ih p' (choosesType_change Request.ChoosesType.give (p := p.endPlain) hp hgive) h
  | case8 => cases h
  | case9 p f ws _ ih =>
    obtain ⟨p', hturn, h⟩ := exists_of_bind_eq_ok h
    exact ih p' (choosesType_change Request.ChoosesType.turnOn (p := p.endPlain) hp hturn) h

end Progress

theorem choosesType_of_arguments {arguments : List String} {r : Request} (h : Request.ofArguments arguments = .ok r) :
    r.ChoosesType := by
  obtain ⟨ws, -, h⟩ := exists_of_bind_eq_ok h
  obtain ⟨p, htaken, h⟩ := exists_of_bind_eq_ok h
  have hp : p.request.ChoosesType := Progress.choosesType_takeAll (p := {}) nofun htaken
  split at h <;> cases h
  exact hp

end Deflatten.CommandLine
