import Columnar.Component.Registry
import Columnar.Proofs.Component.Grammar
import Columnar.Proofs.Conformance
import Columnar.Proofs.NameMap
import Columnar.Proofs.Outcome

/-!
# Reachable registries

A registry comes about by registering components, one at a time or a provider's
all together, from nothing.  Whatever fails on the way, every entry that is
there is the one its own name and datatype ask for: the name is well formed, and
the datatype is valid.
-/

namespace Columnar
namespace Registry

/-- The registries that calls of registration lead to. -/
inductive Reachable : Registry -> Prop
  | empty : Reachable .empty
  | register {r : Registry} (name : String) (datatype : Datatype) :
      Reachable r -> Reachable (r.register name datatype).2
  | load {r : Registry} (p : Provider) : Reachable r -> Reachable (r.load p).2

/--
Every entry is the handle that registering its name and datatype asks for.
-/
def Sound (r : Registry) : Prop :=
  forall (name : String) (handle : Handle), r.handles.find? name =
    some handle ->
    candidate name handle.datatype = .ok handle

/-! ## The handle a registration asks for -/

theorem parseName_eq_ok_iff {text : String} {name : ComponentName} :
    parseName text = .ok name ↔ ComponentName.fault? text = none ∧
      name = ⟨text⟩ := by
  rw [← ComponentName.parse_eq_ok_iff, parseName]
  cases ComponentName.parse text with
  | error fault => simp
  | ok parsed => simp

theorem candidate_eq_ok_iff {name : String} {datatype : Datatype}
    {handle : Handle} :
    candidate name datatype = .ok handle ↔
      ComponentName.fault? name = none ∧ datatype.validate = .ok () ∧
        handle = .of ⟨name⟩ datatype := by
  rw [candidate, bind_eq_ok_iff]
  constructor
  · intro h
    rcases h with ⟨parsed, hparsed, h⟩
    rcases parseName_eq_ok_iff.mp hparsed with ⟨hname, rfl⟩
    split at h
    · cases h
    · next hvalid =>
        cases h
        exact ⟨hname, hvalid, rfl⟩
  · intro h
    rcases h with ⟨hname, hvalid, rfl⟩
    refine ⟨⟨name⟩, parseName_eq_ok_iff.mpr ⟨hname, rfl⟩, ?_⟩
    rw [hvalid]

/-! ## Soundness is kept -/

theorem sound_empty : Sound .empty := by
  intro name handle h
  rw [empty, NameMap.find?_empty] at h
  cases h

theorem sound_enter {r : Registry} {handle : Handle} (hr : r.Sound)
    (hhandle : candidate handle.name.text handle.datatype = .ok handle) :
    (r.enter handle).2.Sound := by
  unfold enter
  split
  · split
    · exact hr
    · exact hr
  · intro name found hfound
    rw [NameMap.find?_insert] at hfound
    split at hfound
    · next hname =>
        cases hfound
        rw [hname]
        exact hhandle
    · exact hr name found hfound

theorem sound_register {r : Registry} (name : String) (datatype : Datatype)
    (hr : r.Sound) :
    (r.register name datatype).2.Sound := by
  unfold register
  split
  · exact hr
  · next handle hhandle =>
      have hcandidate : candidate handle.name.text handle.datatype =
          .ok handle := by
        rcases candidate_eq_ok_iff.mp hhandle with ⟨_, _, rfl⟩
        exact hhandle
      exact sound_enter hr hcandidate

theorem sound_registerEach {r : Registry}
    (components : List (ComponentDef Datatype)) (hr : r.Sound) :
    (r.registerEach components).2.Sound := by
  induction components generalizing r with
  | nil => exact hr
  | cons component rest ih =>
      have hfirst : (r.register component.name component.datatype).2.Sound :=
        sound_register _ _ hr
      rw [registerEach]
      split
      · next hregister =>
          rw [hregister] at hfirst
          exact hfirst
      · next hregister =>
          rw [hregister] at hfirst
          exact ih hfirst

theorem Reachable.sound {r : Registry} (h : r.Reachable) : r.Sound := by
  induction h with
  | empty => exact sound_empty
  | register name datatype _ ih => exact sound_register name datatype ih
  | load p _ ih => exact sound_registerEach p.components ih

theorem Reachable.validate_of_handle {r : Registry} (h : r.Reachable)
    {name : String} {found : Handle} (hfound : r.handle name = .ok found) :
    found.datatype.validate = .ok () := by
  unfold handle at hfound
  split at hfound
  · next hlookup =>
      cases hfound
      exact (candidate_eq_ok_iff.mp (h.sound name found hlookup)).2.1
  · cases hfound

theorem handle_register_empty {name : ComponentName} {datatype : Datatype}
    (h : candidate name.text datatype = .ok (.of name datatype)) :
    (empty.register name.text datatype).2.handle name.text =
      .ok (.of name datatype) := by
  have hentries : (empty.register name.text datatype).2.handles =
      NameMap.empty.insert name.text (.of name datatype) := by
    rw [register, h]
    rfl
  rw [handle, hentries, NameMap.find?_insert, if_pos rfl]

/-! ## A sample -/

namespace Sample

def poseName : ComponentName := ⟨"sample.components.Pose"⟩

def poseRegistry : Registry :=
  (empty.register poseName.text Datatype.Sample.pose).2

theorem reachable_poseRegistry : poseRegistry.Reachable :=
  Reachable.register _ _ Reachable.empty

theorem handle_poseRegistry :
    poseRegistry.handle poseName.text =
      .ok (.of poseName Datatype.Sample.pose) :=
  handle_register_empty (candidate_eq_ok_iff.mpr ⟨by decide, rfl, rfl⟩)

end Sample

end Registry
end Columnar
