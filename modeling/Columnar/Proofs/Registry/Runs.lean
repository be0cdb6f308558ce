import Columnar.Proofs.Registry.Reachable

/-!
# Runs of registrations

A run performs registrations one after another.  Under each name it keeps the
handle that was there before, or else the one that the first well-formed
registration of the name asks for; every well-formed registration is answered
by that handle or refused because of it.
-/

namespace Columnar
namespace Registry

structure Event where
  call : ComponentDef Datatype
  before : Registry
  answer : Except RegistryError Handle
  after : Registry

def event (r : Registry) (call : ComponentDef Datatype) : Event :=
  ⟨call, r, (r.register call.name call.datatype).1,
    (r.register call.name call.datatype).2⟩

/-- What a registration asks for, whatever the registry holds. -/
def asked (call : ComponentDef Datatype) : Except RegistryError Handle :=
  candidate call.name call.datatype

def after (r : Registry) : List (ComponentDef Datatype) -> Registry
  | [] => r
  | call :: rest => (r.event call).after.after rest

def record (r : Registry) : List (ComponentDef Datatype) -> List Event
  | [] => []
  | call :: rest => r.event call :: (r.event call).after.record rest

/-- The handle the first well-formed registration of a name asks for. -/
def firstAsked (name : String) (calls : List (ComponentDef Datatype)) :
    Option Handle :=
  calls.findSome? fun call => if call.name =
    name then (asked call).toOption else none

/-! ## One registration -/

theorem asked_eq_ok_iff {call : ComponentDef Datatype} {handle : Handle} :
    asked call = .ok handle ↔
      ComponentName.fault? call.name = none ∧ call.datatype.validate = .ok () ∧
        handle = .of ⟨call.name⟩ call.datatype :=
  candidate_eq_ok_iff

theorem event_of_asked_error {r : Registry} {call : ComponentDef Datatype}
    {e : RegistryError} (hcall : asked call = .error e) :
    r.event call = ⟨call, r, .error e, r⟩ := by
  rw [asked] at hcall
  rw [event, register, hcall]

theorem event_of_asked_ok {r : Registry} {call : ComponentDef Datatype}
    {handle : Handle} (hcall : asked call = .ok handle) :
    r.event call =
      match r.handles.find? call.name with
      | some existing =>
          if existing.datatype = call.datatype then ⟨call, r, .ok existing, r⟩
          else
            ⟨call, r,
              .error (.duplicate call.name existing.datatype.name
                call.datatype.name), r⟩
      | none => ⟨call, r, .ok handle, ⟨r.handles.insert call.name handle⟩⟩ := by
  rcases asked_eq_ok_iff.mp hcall with ⟨_, _, rfl⟩
  rw [asked] at hcall
  rw [event, register, hcall]
  cases hfound : r.handles.find? call.name with
  | none => simp only [enter, Handle.of, hfound]
  | some existing =>
      simp only [enter, Handle.of, hfound]
      by_cases hsame : existing.datatype = call.datatype
      · simp [hsame]
      · simp [hsame]

theorem after_eq_before_of_error {r : Registry} {call : ComponentDef Datatype}
    {e : RegistryError} (h : (r.event call).answer = .error e) :
    (r.event call).after = r := by
  cases hcall : asked call with
  | error fault => rw [event_of_asked_error hcall]
  | ok handle =>
      rw [event_of_asked_ok hcall] at h ⊢
      split at h
      · split <;> rfl
      · cases h

theorem find?_event (r : Registry) (call : ComponentDef Datatype)
    (name : String) :
    (r.event call).after.handles.find? name =
      (r.handles.find? name).or (firstAsked name [call]) := by
  rw [firstAsked, List.findSome?_singleton]
  cases hcall : asked call with
  | error e =>
      rw [event_of_asked_error hcall]
      simp [Except.toOption]
  | ok handle =>
      rw [event_of_asked_ok hcall]
      by_cases hname : call.name = name
      · cases hname
        cases hfound : r.handles.find? call.name with
        | some existing =>
            simp only [Option.some_or]
            split
            · exact hfound
            · exact hfound
        | none =>
            rw [NameMap.find?_insert]
            simp [Except.toOption]
      · rw [if_neg hname, Option.or_none]
        split
        · split <;> rfl
        · rw [NameMap.find?_insert, if_neg (Ne.symm hname)]

theorem answer_event {r : Registry} {call : ComponentDef Datatype}
    {handle first : Handle} (hcall : asked call = .ok handle)
    (hfirst : (r.handles.find? call.name).or (some handle) = some first) :
    (r.event call).answer =
      if call.datatype = first.datatype then .ok first
      else
        .error (.duplicate call.name first.datatype.name
          call.datatype.name) := by
  rw [event_of_asked_ok hcall]
  cases hfound : r.handles.find? call.name with
  | some existing =>
      rw [hfound] at hfirst
      cases hfirst
      by_cases hsame : first.datatype = call.datatype
      · simp [hsame]
      · simp [hsame, Ne.symm hsame]
  | none =>
      rw [hfound] at hfirst
      cases hfirst
      rcases asked_eq_ok_iff.mp hcall with ⟨_, _, rfl⟩
      simp [Handle.of]

theorem find?_of_answer_ok {r : Registry} {call : ComponentDef Datatype}
    {handle : Handle} (h : (r.event call).answer = .ok handle) :
    (r.event call).after.handles.find? call.name = some handle ∧
      handle.datatype = call.datatype := by
  cases hcall : asked call with
  | error e =>
      rw [event_of_asked_error hcall] at h
      cases h
  | ok fresh =>
      rw [event_of_asked_ok hcall] at h ⊢
      cases hfound : r.handles.find? call.name with
      | some existing =>
          rw [hfound] at h
          by_cases hsame : existing.datatype = call.datatype
          · simp only [if_pos hsame] at h ⊢
            cases h
            exact ⟨hfound, hsame⟩
          · simp only [if_neg hsame] at h
            cases h
      | none =>
          rw [hfound] at h
          cases h
          rcases asked_eq_ok_iff.mp hcall with ⟨_, _, rfl⟩
          exact ⟨(NameMap.find?_insert _ _ _ _).trans (if_pos rfl), rfl⟩

theorem registerEach_cons (r : Registry) (call : ComponentDef Datatype)
    (rest : List (ComponentDef Datatype)) :
    r.registerEach (call :: rest) =
      match (r.event call).answer with
      | .error e => (.error e, (r.event call).after)
      | .ok handle =>
          (((r.event call).after.registerEach rest).1.map (handle :: ·),
            ((r.event call).after.registerEach rest).2) := by
  rw [registerEach, event]
  cases r.register call.name call.datatype with
  | mk answer next => cases answer <;> rfl

/-! ## Many registrations -/

theorem firstAsked_append (name : String)
    (calls more : List (ComponentDef Datatype)) :
    firstAsked name (calls ++ more) = (firstAsked name calls).or
      (firstAsked name more) :=
  List.findSome?_append

theorem split_of_firstAsked {calls : List (ComponentDef Datatype)}
    {name : String} {handle : Handle}
    (h : firstAsked name calls = some handle) :
    exists earlier call later, calls = earlier ++ call :: later ∧
      call.name = name ∧
      asked call = .ok handle ∧ firstAsked name earlier = none := by
  rcases List.findSome?_eq_some_iff.mp h with
    ⟨earlier, call, later, hcalls, hcall, hearlier⟩
  by_cases hname : call.name = name
  · rw [if_pos hname] at hcall
    cases hasked : asked call with
    | error e =>
        rw [hasked] at hcall
        cases hcall
    | ok found =>
        rw [hasked] at hcall
        cases hcall
        exact ⟨earlier, call, later, hcalls, hname, hasked,
          List.findSome?_eq_none_iff.mpr hearlier⟩
  · rw [if_neg hname] at hcall
    cases hcall

theorem exists_of_firstAsked_eq_some {calls : List (ComponentDef Datatype)}
    {name : String} {handle : Handle}
    (h : firstAsked name calls = some handle) :
    exists call, call ∈ calls ∧ call.name = name ∧ asked call = .ok handle := by
  rcases split_of_firstAsked h with
    ⟨earlier, call, later, rfl, hname, hasked, _⟩
  exact ⟨call, by simp, hname, hasked⟩

theorem find?_after (r : Registry) (calls : List (ComponentDef Datatype))
    (name : String) :
    (r.after calls).handles.find? name =
      (r.handles.find? name).or (firstAsked name calls) := by
  induction calls generalizing r with
  | nil => exact (Option.or_none).symm
  | cons call rest ih =>
      rw [after, ih, find?_event, Option.or_assoc, ← firstAsked_append,
        List.singleton_append]

theorem after_append (r : Registry)
    (calls more : List (ComponentDef Datatype)) :
    r.after (calls ++ more) = (r.after calls).after more := by
  induction calls generalizing r with
  | nil => rfl
  | cons call rest ih => exact ih _

theorem record_append (r : Registry)
    (calls more : List (ComponentDef Datatype)) :
    r.record (calls ++ more) = r.record calls ++
      (r.after calls).record more := by
  induction calls generalizing r with
  | nil => rfl
  | cons call rest ih =>
      rw [List.cons_append, record, record, ih, List.cons_append]
      rfl

theorem map_call_record (r : Registry) (calls : List (ComponentDef Datatype)) :
    (r.record calls).map Event.call = calls := by
  induction calls generalizing r with
  | nil => rfl
  | cons call rest ih =>
      rw [record, List.map_cons, ih]
      rfl

theorem exists_of_mem_record {r : Registry}
    {calls : List (ComponentDef Datatype)} {e : Event}
    (h : e ∈ r.record calls) :
    exists earlier later, calls = earlier ++ e.call :: later ∧
      e = (r.after earlier).event e.call := by
  induction calls generalizing r with
  | nil => cases h
  | cons call rest ih =>
      rcases List.mem_cons.mp h with rfl | h
      · exact ⟨[], rest, rfl, rfl⟩
      · rcases ih h with ⟨earlier, later, hrest, he⟩
        exact ⟨call :: earlier, later, by rw [hrest, List.cons_append], he⟩

theorem event_mem_record (r : Registry)
    (earlier later : List (ComponentDef Datatype))
    (call : ComponentDef Datatype) :
    (r.after earlier).event call ∈ r.record (earlier ++ call :: later) := by
  rw [record_append]
  exact List.mem_append_right _ List.mem_cons_self

theorem find?_of_mem_record {r : Registry}
    {calls : List (ComponentDef Datatype)} {e : Event} {handle : Handle}
    (he : e ∈ r.record calls) (h : e.answer = .ok handle) :
    (r.after calls).handles.find? e.call.name = some handle ∧
      handle.datatype = e.call.datatype := by
  rcases exists_of_mem_record he with ⟨earlier, later, hcalls, hevent⟩
  rw [hevent] at h
  rcases find?_of_answer_ok h with ⟨hfound, hsame⟩
  refine ⟨?_, hsame⟩
  rw [hcalls, after_append, after, find?_after, hfound]
  rfl

theorem exists_of_firstAsked {r : Registry}
    {calls : List (ComponentDef Datatype)} {name : String} {handle : Handle}
    (hnew : r.handles.find? name = none)
    (h : firstAsked name calls = some handle) :
    exists e, e ∈ r.record calls ∧ e.call.name = name ∧
      e.answer = .ok handle := by
  rcases split_of_firstAsked h with
    ⟨earlier, call, later, rfl, rfl, hasked, hearlier⟩
  have hbefore : ((r.after earlier).handles.find? call.name).or (some handle) =
      some handle := by
    rw [find?_after, hnew, hearlier]
    rfl
  have hsame : call.datatype = handle.datatype := by
    rcases asked_eq_ok_iff.mp hasked with ⟨_, _, rfl⟩
    rfl
  refine ⟨_, event_mem_record r earlier later call, rfl, ?_⟩
  rw [answer_event hasked hbefore, if_pos hsame]

/--
From nothing, a well-formed registration is answered by the first one of its
name.
-/
theorem answer_of_mem_record {calls : List (ComponentDef Datatype)} {e : Event}
    {handle : Handle} (he : e ∈ empty.record calls)
    (hcall : asked e.call = .ok handle) :
    exists first, firstAsked e.call.name calls = some first ∧
      e.answer =
        if e.call.datatype = first.datatype then .ok first
        else
          .error (.duplicate e.call.name first.datatype.name
            e.call.datatype.name) := by
  rcases exists_of_mem_record he with ⟨earlier, later, hcalls, hevent⟩
  have hown : firstAsked e.call.name (e.call :: later) = some handle := by
    simp [firstAsked, hcall, Except.toOption]
  have hbefore : (empty.after earlier).handles.find? e.call.name =
      firstAsked e.call.name earlier := find?_after empty earlier e.call.name
  cases hfirst : (firstAsked e.call.name earlier).or (some handle) with
  | none => simp at hfirst
  | some first =>
      refine ⟨first, ?_, ?_⟩
      · rw [hcalls, firstAsked_append, hown, hfirst]
      · rw [hevent]
        exact answer_event hcall (by rw [hbefore, hfirst])

theorem Reachable.after {r : Registry} (h : r.Reachable)
    (calls : List (ComponentDef Datatype)) :
    (r.after calls).Reachable := by
  induction calls generalizing r with
  | nil => exact h
  | cons call rest ih => exact ih (.register call.name call.datatype h)

/-! ## A sample -/

namespace Sample

def poseCall : ComponentDef Datatype := ⟨poseName.text, Datatype.Sample.pose⟩

theorem asked_poseCall :
    asked poseCall = .ok (.of poseName Datatype.Sample.pose) :=
  asked_eq_ok_iff.mpr ⟨by decide, rfl, rfl⟩

theorem eq_of_handle_poseRegistry {name : String} {handle : Handle}
    (h : poseRegistry.handle name = .ok handle) :
    name = poseName.text ∧ handle = .of poseName Datatype.Sample.pose := by
  have hrun : poseRegistry = empty.after [poseCall] := rfl
  unfold Registry.handle at h
  split at h
  · next hfound =>
      cases h
      rw [hrun, find?_after] at hfound
      rcases exists_of_firstAsked_eq_some hfound with
        ⟨call, hcall, hname, hasked⟩
      cases List.mem_singleton.mp hcall
      exact ⟨hname.symm, Except.ok.inj (hasked.symm.trans asked_poseCall)⟩
  · cases h

end Sample

end Registry
end Columnar
