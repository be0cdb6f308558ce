import Columnar.Proofs.Registry.Order

/-!
# Providers

The components of a provider are registered one after another, up to the first
that fails.  If none fails this is a run like any other, and none does exactly
when all are well formed and nothing gives one name two datatypes.
-/

namespace Columnar
namespace Registry

def Answered (r : Registry) (calls : List (ComponentDef Datatype))
    (handles : List Handle) : Prop :=
  List.Forall₂ (fun e handle => e.answer = .ok handle) (r.record calls) handles

/-- The two ways in which the registration of several components ends. -/
inductive Loaded (r : Registry) (calls : List (ComponentDef Datatype)) :
    Except RegistryError (List Handle) × Registry -> Prop
  | all {handles : List Handle} :
      r.Answered calls handles -> Loaded r calls (.ok handles, r.after calls)
  | stops {earlier later : List (ComponentDef Datatype)}
      {call : ComponentDef Datatype} {handles : List Handle}
      {e : RegistryError} :
      calls = earlier ++ call :: later -> r.Answered earlier handles ->
        ((r.after earlier).event call).answer = .error e ->
          Loaded r calls (.error e, r.after earlier)

variable {r : Registry} {calls : List (ComponentDef Datatype)}
  {handles : List Handle}

/-! ## The run of a provider -/

theorem answered_cons {call : ComponentDef Datatype} {handle : Handle}
    (hcall : (r.event call).answer = .ok handle)
    (hrest : (r.event call).after.Answered calls handles) :
    r.Answered (call :: calls) (handle :: handles) :=
  .cons hcall hrest

theorem loaded_registerEach (r : Registry)
    (calls : List (ComponentDef Datatype)) :
    r.Loaded calls (r.registerEach calls) := by
  induction calls generalizing r with
  | nil => exact .all .nil
  | cons call rest ih =>
      rw [registerEach_cons]
      cases hanswer : (r.event call).answer with
      | error e =>
          dsimp only
          rw [after_eq_before_of_error hanswer]
          have hsplit : call :: rest = [] ++ call :: rest := rfl
          exact .stops hsplit .nil hanswer
      | ok handle =>
          dsimp only
          -- The rest is a run of its own, from where the first registration has
          -- led.
          have hrest := ih (r.event call).after
          generalize (r.event call).after.registerEach rest = outcome at hrest ⊢
          cases hrest with
          | all hall => exact .all (answered_cons hanswer hall)
          | @stops earlier later other others e hsplit hearlier herror =>
              have hcalls : call :: rest = (call :: earlier) ++
                  other :: later := by
                rw [hsplit, List.cons_append]
              exact .stops hcalls (answered_cons hanswer hearlier) herror

theorem registerEach_of_answered (h : r.Answered calls handles) :
    r.registerEach calls = (.ok handles, r.after calls) := by
  induction calls generalizing r handles with
  | nil =>
      cases h
      rfl
  | cons call rest ih =>
      cases h with
      | cons hcall hrest =>
          rw [registerEach_cons, hcall, ih hrest]
          rfl

theorem fst_registerEach_eq_ok_iff :
    (r.registerEach calls).1 = .ok handles ↔ r.Answered calls handles := by
  constructor
  · intro h
    have hloaded := loaded_registerEach r calls
    generalize r.registerEach calls = outcome at h hloaded
    cases hloaded with
    | all hall =>
        cases h
        exact hall
    | stops _ _ _ => cases h
  · intro h
    rw [registerEach_of_answered h]

/-! ## The handles of a provider -/

def handleOf (component : ComponentDef Datatype) : Handle :=
  .of ⟨component.name⟩ component.datatype

theorem Reachable.event (hr : r.Reachable) (call : ComponentDef Datatype) :
    (r.event call).after.Reachable :=
  .register call.name call.datatype hr

theorem asked_of_answer_ok {call : ComponentDef Datatype} {handle : Handle}
    (h : (r.event call).answer = .ok handle) :
    asked call = .ok (handleOf call) := by
  cases hasked : asked call with
  | error e =>
      rw [event_of_asked_error hasked] at h
      cases h
  | ok found => rw [(asked_eq_ok_iff.mp hasked).2.2, handleOf]

theorem eq_handleOf_of_answer_ok (hr : r.Reachable)
    {call : ComponentDef Datatype} {handle : Handle}
    (h : (r.event call).answer = .ok handle) : handle = handleOf call := by
  rcases find?_of_answer_ok h with ⟨hfound, hsame⟩
  have hcandidate := (hr.event call).sound call.name handle hfound
  rw [(candidate_eq_ok_iff.mp hcandidate).2.2, hsame, handleOf]

theorem answered_iff (hr : r.Reachable) :
    r.Answered calls handles ↔
      (forall e, e ∈ r.record calls -> e.answer = .ok (handleOf e.call)) ∧
        calls.map handleOf = handles := by
  induction calls generalizing r handles with
  | nil => simp [Answered, record, eq_comm]
  | cons call rest ih =>
      rw [Answered, record, List.forall₂_cons_left_iff, List.forall_mem_cons,
        List.map_cons]
      constructor
      · intro h
        rcases h with ⟨handle, others, hcall, hrest, rfl⟩
        rcases (ih (hr.event call)).mp hrest with ⟨hanswers, rfl⟩
        have hhandle := eq_handleOf_of_answer_ok hr hcall
        exact ⟨⟨hhandle ▸ hcall, hanswers⟩, by rw [hhandle]⟩
      · intro h
        rcases h with ⟨⟨hcall, hanswers⟩, rfl⟩
        exact ⟨_, _, hcall, (ih (hr.event call)).mpr ⟨hanswers, rfl⟩, rfl⟩

/-! ## When every registration succeeds -/

/--
All names are well formed, and none has two datatypes, here or with the
registry.
-/
structure Admits (r : Registry) (components : List (ComponentDef Datatype)) :
    Prop where
  named : forall component, component ∈ components ->
    exists name, ComponentName.parse component.name = .ok name
  among : forall component, component ∈ components ->
    forall other, other ∈ components ->
    component.name = other.name -> component.datatype = other.datatype
  against : forall component, component ∈ components -> forall existing,
    r.handle component.name = .ok existing ->
    component.datatype = existing.datatype

theorem handle_eq_ok_iff {name : String} {handle : Handle} :
    r.handle name = .ok handle ↔ r.handles.find? name = some handle := by
  rw [Registry.handle]
  cases r.handles.find? name with
  | some found => simp
  | none => simp

theorem Admits.answer_eq (h : r.Admits calls) (hr : r.Reachable)
    (hvalid : forall call, call ∈ calls -> call.datatype.validate = .ok ())
    {e : Event} (he : e ∈ r.record calls) :
    e.answer = .ok (handleOf e.call) := by
  have hfree : r.ConflictFree calls :=
    { among := fun call hcall other hother _ _ =>
      h.among call hcall other hother
      against := fun call hcall _ => h.against call hcall }
  have hcall : e.call ∈ calls := by
    rw [← map_call_record r calls]
    exact List.mem_map_of_mem he
  rw [hfree.answer_eq hr.sound he]
  exact asked_eq_ok_iff.mpr ⟨ComponentName.exists_parse_iff.mp
    (h.named e.call hcall), hvalid e.call hcall, rfl⟩

theorem find?_after_of_answers
    (h : forall e, e ∈ r.record calls -> e.answer = .ok (handleOf e.call))
    {call : ComponentDef Datatype} (hcall : call ∈ calls) :
    (r.after calls).handles.find? call.name = some (handleOf call) := by
  rw [← map_call_record r calls] at hcall
  rcases List.mem_map.mp hcall with ⟨e, he, rfl⟩
  exact (find?_of_mem_record he (h e he)).1

theorem admits_of_answers
    (h : forall e, e ∈ r.record calls -> e.answer = .ok (handleOf e.call)) :
    r.Admits calls where
  named := by
    intro call hcall
    rw [← map_call_record r calls] at hcall
    rcases List.mem_map.mp hcall with ⟨e, he, rfl⟩
    rcases exists_of_mem_record he with ⟨earlier, later, _, hevent⟩
    have hanswer := h e he
    rw [hevent] at hanswer
    exact ComponentName.exists_parse_iff.mpr
      (asked_eq_ok_iff.mp (asked_of_answer_ok hanswer)).1
  among := by
    intro call hcall other hother hname
    have hfound := find?_after_of_answers h hcall
    rw [hname, find?_after_of_answers h hother] at hfound
    exact (congrArg Handle.datatype (Option.some.inj hfound)).symm
  against := by
    intro call hcall existing hexisting
    have hfound := find?_after_of_answers h hcall
    rw [find?_after, handle_eq_ok_iff.mp hexisting, Option.some_or] at hfound
    exact (congrArg Handle.datatype (Option.some.inj hfound)).symm

/--
Valid components are registered all together exactly when the registry admits
them; each then stands under its name.
-/
theorem registerEach_eq_ok_iff (hr : r.Reachable)
    (hvalid : forall call, call ∈ calls -> call.datatype.validate = .ok ()) :
    (r.registerEach calls).1 = .ok handles ↔
      r.Admits calls ∧ calls.map handleOf = handles := by
  rw [fst_registerEach_eq_ok_iff, answered_iff hr]
  constructor
  · intro h
    exact ⟨admits_of_answers h.1, h.2⟩
  · intro h
    exact ⟨fun e he => h.1.answer_eq hr hvalid he, h.2⟩

theorem find?_registerEach (hr : r.Reachable)
    (h : (r.registerEach calls).1 = .ok handles) {call : ComponentDef Datatype}
    (hcall : call ∈ calls) :
    (r.registerEach calls).2.handles.find? call.name =
      some (handleOf call) := by
  have hanswered := fst_registerEach_eq_ok_iff.mp h
  rw [registerEach_of_answered hanswered]
  exact find?_after_of_answers ((answered_iff hr).mp hanswered).1 hcall

theorem validate_of_asked {call : ComponentDef Datatype}
    {fault : InvalidDatatype}
    (h : asked call = .error (.invalidDatatype fault)) :
    call.datatype.validate = .error fault := by
  rw [asked, candidate, parseName] at h
  cases hname : ComponentName.parse call.name with
  | error malformed =>
      rw [hname] at h
      cases h
  | ok name =>
      rw [hname] at h
      cases hvalid : call.datatype.validate with
      | ok _ =>
          simp only [bind, Except.bind, hvalid] at h
          cases h
      | error found =>
          simp only [bind, Except.bind, hvalid] at h
          cases h
          rfl

theorem exists_invalid_of_registerEach {fault : InvalidDatatype}
    (h : (r.registerEach calls).1 = .error (.invalidDatatype fault)) :
    exists call, call ∈ calls ∧ call.datatype.validate = .error fault := by
  have hloaded := loaded_registerEach r calls
  generalize r.registerEach calls = outcome at h hloaded
  cases hloaded with
  | all _ => cases h
  | @stops earlier later call _ e hsplit _ hanswer =>
      cases h
      refine ⟨call, by simp [hsplit], ?_⟩
      cases hasked : asked call with
      | error e =>
          rw [event_of_asked_error hasked] at hanswer
          cases hanswer
          exact validate_of_asked hasked
      | ok handle =>
          rw [event_of_asked_ok hasked] at hanswer
          split at hanswer
          · split at hanswer
            · cases hanswer
            · cases hanswer
          · cases hanswer

end Registry
end Columnar
