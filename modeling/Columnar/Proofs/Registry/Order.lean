import Columnar.Proofs.Registry.Runs

/-!
# The order of registrations

Registrations that do not contradict each other, nor what is registered already,
can be made in any order.  Each is answered with what it asks for, whether it is
the one that enters the name or finds it there, and the registry they lead to is
the same.
-/

namespace Columnar
namespace Registry

def WellFormed (call : ComponentDef Datatype) : Prop :=
  ComponentName.fault? call.name = none ∧ call.datatype.validate = .ok ()

instance (call : ComponentDef Datatype) : Decidable (WellFormed call) :=
  inferInstanceAs (Decidable (_ ∧ _))

/--
No name is given two datatypes, by the calls or by a call and the registry.
-/
structure ConflictFree (r : Registry) (calls : List (ComponentDef Datatype)) :
    Prop where
  among : forall call, call ∈ calls -> forall other, other ∈ calls ->
    WellFormed call -> WellFormed other -> call.name = other.name ->
      call.datatype = other.datatype
  against : forall call, call ∈ calls -> WellFormed call ->
    forall existing, r.handle call.name = .ok existing ->
      call.datatype = existing.datatype

variable {r : Registry} {calls order : List (ComponentDef Datatype)}

theorem wellFormed_of_asked {call : ComponentDef Datatype} {handle : Handle}
    (h : asked call = .ok handle) : WellFormed call :=
  ⟨(asked_eq_ok_iff.mp h).1, (asked_eq_ok_iff.mp h).2.1⟩

theorem asked_congr {call other : ComponentDef Datatype}
    (hname : call.name = other.name)
    (hdatatype : call.datatype = other.datatype) :
    asked call = asked other := by
  rw [asked, asked, hname, hdatatype]

namespace ConflictFree

theorem perm (h : r.ConflictFree calls) (horder : order.Perm calls) :
    r.ConflictFree order where
  among := by
    intro call hcall other hother
    exact h.among call (horder.mem_iff.mp hcall) other
      (horder.mem_iff.mp hother)
  against := by
    intro call hcall
    exact h.against call (horder.mem_iff.mp hcall)

theorem asked_eq (h : r.ConflictFree calls) {call other : ComponentDef Datatype}
    (hcall : call ∈ calls) (hother : other ∈ calls)
    (hname : call.name = other.name) {handle found : Handle}
    (hasked : asked call = .ok handle) (hfound : asked other = .ok found) :
    handle = found := by
  have hdatatype := h.among call hcall other hother (wellFormed_of_asked hasked)
    (wellFormed_of_asked hfound) hname
  have heq := (asked_congr hname hdatatype).symm.trans hasked
  exact Except.ok.inj (heq.symm.trans hfound)

theorem firstAsked_eq_some_iff (h : r.ConflictFree calls) {name : String}
    {handle : Handle} :
    firstAsked name calls = some handle ↔
      exists call, call ∈ calls ∧ call.name = name ∧
        asked call = .ok handle := by
  constructor
  · exact exists_of_firstAsked_eq_some
  · intro hexists
    rcases hexists with ⟨call, hcall, rfl, hasked⟩
    cases hfirst : firstAsked call.name calls with
    | none =>
        have hnone := List.findSome?_eq_none_iff.mp hfirst call hcall
        rw [if_pos rfl, hasked] at hnone
        cases hnone
    | some found =>
        rcases exists_of_firstAsked_eq_some hfirst with
          ⟨other, hother, hname, hfound⟩
        rw [h.asked_eq hother hcall hname hfound hasked]

/--
Whatever the order, what is under a name in the end depends on the calls alone.
-/
theorem after_eq (h : r.ConflictFree calls) (horder : order.Perm calls) :
    r.after order = r.after calls := by
  have hfirst : forall name, firstAsked name order = firstAsked name calls := by
    intro name
    apply Option.ext
    intro handle
    rw [(h.perm horder).firstAsked_eq_some_iff, h.firstAsked_eq_some_iff]
    simp only [horder.mem_iff]
  have hhandles : (r.after order).handles = (r.after calls).handles := by
    apply NameMap.ext_find?
    intro name
    rw [find?_after, find?_after, hfirst]
  exact congrArg Registry.mk hhandles

theorem found_eq (h : r.ConflictFree calls) (hr : r.Sound)
    {call : ComponentDef Datatype}
    {earlier later : List (ComponentDef Datatype)}
    (hcalls : calls = earlier ++ call :: later) {handle found : Handle}
    (hasked : asked call = .ok handle)
    (hfound : (r.after earlier).handles.find? call.name = some found) :
    found = handle := by
  have hcall : call ∈ calls := by simp [hcalls]
  -- The name was there from the start, or an earlier call has entered it.
  rw [find?_after] at hfound
  cases hexisting : r.handles.find? call.name with
  | some existing =>
      rw [hexisting, Option.some_or] at hfound
      cases hfound
      have hhandle : r.handle call.name = .ok found := by
        rw [Registry.handle, hexisting]
      have hdatatype :=
        h.against call hcall (wellFormed_of_asked hasked) found hhandle
      have hcandidate := hr call.name found hexisting
      rw [asked, hdatatype, hcandidate] at hasked
      exact Except.ok.inj hasked
  | none =>
      rw [hexisting, Option.none_or] at hfound
      rcases exists_of_firstAsked_eq_some hfound with
        ⟨other, hother, hname, hotherAsked⟩
      exact h.asked_eq (by simp [hcalls, hother]) hcall hname hotherAsked hasked

theorem answer_eq (h : r.ConflictFree calls) (hr : r.Sound) {e : Event}
    (he : e ∈ r.record calls) : e.answer = asked e.call := by
  rcases exists_of_mem_record he with ⟨earlier, later, hcalls, hevent⟩
  cases hasked : asked e.call with
  | error fault => rw [hevent, event_of_asked_error hasked]
  | ok handle =>
      have hfirst : ((r.after earlier).handles.find? e.call.name).or
            (some handle) =
          some handle := by
        cases hfound : (r.after earlier).handles.find? e.call.name with
        | none => rfl
        | some found => rw [h.found_eq hr hcalls hasked hfound, Option.some_or]
      rcases asked_eq_ok_iff.mp hasked with ⟨_, _, hhandle⟩
      have hsame : e.call.datatype = handle.datatype := by
        rw [hhandle, Handle.of]
      rw [hevent, answer_event hasked hfirst, if_pos hsame]

/--
Without conflicts every order of the registrations ends in the same registry,
and each of them is answered with what it asks for, whenever its turn comes.
-/
theorem order_irrelevant (hreachable : r.Reachable) (h : r.ConflictFree calls)
    (horder : order.Perm calls) :
    r.after order = r.after calls ∧
      (r.record order).map (fun e => (e.call, e.answer)) =
        order.map fun call => (call, asked call) := by
  refine ⟨h.after_eq horder, ?_⟩
  have hanswers : forall e, e ∈ r.record order ->
      (e.call, e.answer) = (e.call, asked e.call) := by
    intro e he
    rw [(h.perm horder).answer_eq hreachable.sound he]
  rw [List.map_congr_left hanswers]
  conv => rhs; rw [← map_call_record r order, List.map_map]
  rfl

end ConflictFree

namespace Sample

def mixedCalls : List (ComponentDef Datatype) :=
  [⟨"sample.components.Speed", Datatype.primitive "sample.Speed" .f32⟩,
    ⟨"Speed", Datatype.primitive "sample.Speed" .bool⟩,
    ⟨poseName.text, Datatype.Sample.pose⟩,
    ⟨poseName.text, Datatype.struct "sample.Nothing" []⟩,
    ⟨"sample.components.Speed", Datatype.primitive "sample.Speed" .f32⟩]

theorem conflictFree_mixedCalls : poseRegistry.ConflictFree mixedCalls where
  among := by
    decide
  against := by
    intro call hcall hwell existing hexisting
    rcases eq_of_handle_poseRegistry hexisting with ⟨hname, rfl⟩
    have hpose : forall call, call ∈ mixedCalls -> WellFormed call ->
        call.name = poseName.text -> call.datatype = Datatype.Sample.pose := by
      decide
    exact hpose call hcall hwell hname

end Sample

open Sample in
theorem ConflictFree.order_irrelevant_mixedCalls :
    poseRegistry.after mixedCalls.reverse = poseRegistry.after mixedCalls ∧
      (poseRegistry.record mixedCalls.reverse).map
          (fun e => (e.call, e.answer)) =
        mixedCalls.reverse.map fun call => (call, asked call) :=
  conflictFree_mixedCalls.order_irrelevant reachable_poseRegistry
    (List.reverse_perm mixedCalls)

end Registry
end Columnar
