import Mathlib.Logic.Relation
import Columnar.Proofs.Batch.Building
import Columnar.Proofs.Registry.Runs
import Columnar.Proofs.Text.ByteOrder

/-!
# Callers that share a registry

Any number of callers register components and providers with one registry.  A
registration is one step; a provider takes a step for each of its components,
and between two steps of one caller those of the others come in as they like.
Whatever the order, all that happens is one run of registrations.
-/

namespace Columnar
namespace Registry

inductive Request
  | component (definition : ComponentDef Datatype)
  | provider (p : Provider)

def Request.components : Request -> List (ComponentDef Datatype)
  | .component definition => [definition]
  | .provider p => p.components

def Event.goOn (e : Event) (rest : List (ComponentDef Datatype)) :
    List (ComponentDef Datatype) :=
  match e.answer with
  | .ok _ => rest
  | .error _ => []

structure Session where
  registry : Registry
  /--
  For each caller, the components of the request it is at and of those after it.
  -/
  agendas : List (List (List (ComponentDef Datatype)))
  history : List Event

namespace Session

def start (requests : List (List Request)) : Session :=
  ⟨.empty, requests.map fun own => own.map Request.components, []⟩

def register (s : Session) (caller : Nat) (call : ComponentDef Datatype)
    (rest : List (ComponentDef Datatype))
    (later : List (List (ComponentDef Datatype))) :
    Session :=
  let e := s.registry.event call
  ⟨e.after, s.agendas.set caller (e.goOn rest :: later), s.history ++ [e]⟩

/--
A caller registers the next component of its request, or is done with the
request.
-/
inductive Step (s : Session) : Session -> Prop
  | register (caller : Nat) {call : ComponentDef Datatype}
      {rest : List (ComponentDef Datatype)}
      {later : List (List (ComponentDef Datatype))}
      (h : s.agendas[caller]? = some ((call :: rest) :: later)) :
      Step s (s.register caller call rest later)
  | finish (caller : Nat) {later : List (List (ComponentDef Datatype))}
      (h : s.agendas[caller]? = some ([] :: later)) :
      Step s { s with agendas := s.agendas.set caller later }

abbrev Reaches : Session -> Session -> Prop := Relation.ReflTransGen Step

/-! ## Every interleaving is a run -/

/-- Whatever step is taken, at most one registration is added to the run. -/
theorem Step.exists_calls {s next : Session} (h : s.Step next) :
    exists calls, next.registry = s.registry.after calls ∧
      next.history = s.history ++ s.registry.record calls := by
  cases h with
  | register caller h => exact ⟨[_], rfl, rfl⟩
  | finish caller h => exact ⟨[], rfl, (List.append_nil _).symm⟩

theorem Reaches.exists_calls {s last : Session} (h : s.Reaches last) :
    exists calls, last.registry = s.registry.after calls ∧
      last.history = s.history ++ s.registry.record calls := by
  induction h with
  | refl => exact ⟨[], rfl, (List.append_nil _).symm⟩
  | tail _ hstep ih =>
      rcases ih with ⟨calls, hregistry, hhistory⟩
      rcases hstep.exists_calls with ⟨more, hmore, hrecord⟩
      refine ⟨calls ++ more, ?_, ?_⟩
      · rw [hmore, hregistry, after_append]
      · rw [hrecord, hhistory, hregistry, record_append, List.append_assoc]

theorem reaches_registerEach {s : Session} {caller : Nat}
    {components : List (ComponentDef Datatype)}
    {later : List (List (ComponentDef Datatype))}
    (h : s.agendas[caller]? = some (components :: later)) :
    exists events,
      s.Reaches
        ⟨(s.registry.registerEach components).2, s.agendas.set caller later,
          s.history ++ events⟩ ∧
      (s.registry.registerEach components).1 = events.mapM Event.answer := by
  induction components generalizing s with
  | nil =>
      refine ⟨[], ?_, rfl⟩
      rw [List.append_nil]
      exact .single (.finish caller h)
  | cons call rest ih =>
      have hstep : s.Step (s.register caller call rest later) :=
        .register caller h
      have hagenda : (s.register caller call rest later).agendas[caller]? =
          some ((s.registry.event call).goOn rest :: later) :=
        List.getElem?_set_self (List.getElem?_eq_some_iff.mp h).1
      rw [registerEach_cons]
      -- A failure leaves the caller with nothing more of the request, a success
      -- with the rest.
      cases hanswer : (s.registry.event call).answer with
      | error e =>
          rw [Event.goOn, hanswer] at hagenda
          have hfinish := Step.finish caller hagenda
          refine ⟨[s.registry.event call], ?_, ?_⟩
          · rw [register, List.set_set] at hfinish
            exact .tail (.single hstep) hfinish
          · rw [List.mapM_cons, hanswer]
            rfl
      | ok handle =>
          rw [Event.goOn, hanswer] at hagenda
          rcases ih hagenda with ⟨events, hreaches, hanswers⟩
          refine ⟨s.registry.event call :: events, ?_, ?_⟩
          · simp only [register, List.set_set, List.append_assoc] at hreaches
            exact .head hstep hreaches
          · have hrest : ((s.registry.event call).after.registerEach rest).1 =
                events.mapM Event.answer := hanswers
            rw [hrest, List.mapM_cons, hanswer]
            cases events.mapM Event.answer with
            | error e => rfl
            | ok handles => rfl

def serve (r : Registry) (request : Request) : Registry :=
  (r.registerEach request.components).2

theorem serve_component (r : Registry) (definition : ComponentDef Datatype) :
    serve r (.component definition) = (r.event definition).after := by
  rw [serve, Request.components, registerEach_cons]
  cases (r.event definition).answer with
  | error e => rfl
  | ok handle => rfl

theorem reaches_foldl_serve {s : Session} {caller : Nat} {own : List Request}
    (h : s.agendas[caller]? = some (own.map Request.components)) :
    exists last, s.Reaches last ∧
      last.registry = own.foldl serve s.registry := by
  induction own generalizing s with
  | nil => exact ⟨s, .refl, rfl⟩
  | cons request rest ih =>
      rcases reaches_registerEach h with ⟨events, hreaches, _⟩
      have hrest :
          (s.agendas.set caller (rest.map Request.components))[caller]? =
            some (rest.map Request.components) :=
        List.getElem?_set_self (List.getElem?_eq_some_iff.mp h).1
      rcases ih (s := ⟨_, _, s.history ++ events⟩) hrest with
        ⟨last, hlast, hregistry⟩
      exact ⟨last, hreaches.trans hlast, hregistry⟩

theorem exists_requests_of_reachable {r : Registry} (h : r.Reachable) :
    exists own : List Request, r = own.foldl serve empty := by
  induction h with
  | empty => exact ⟨[], rfl⟩
  | register name datatype _ ih =>
      rcases ih with ⟨own, rfl⟩
      refine ⟨own ++ [.component ⟨name, datatype⟩], ?_⟩
      rw [List.foldl_append, List.foldl_cons, serve_component]
      rfl
  | load p _ ih =>
      rcases ih with ⟨own, rfl⟩
      refine ⟨own ++ [.provider p], ?_⟩
      rw [List.foldl_append]
      rfl

/--
The reachable registries are those that sessions lead to; one caller is enough.
-/
theorem reachable_iff_exists_session {r : Registry} :
    r.Reachable ↔ exists requests s, (start requests).Reaches s ∧
      s.registry = r := by
  constructor
  · intro h
    rcases exists_requests_of_reachable h with ⟨own, rfl⟩
    have hagenda : (start [own]).agendas[0]? =
      some (own.map Request.components) := rfl
    rcases reaches_foldl_serve hagenda with ⟨last, hlast, hregistry⟩
    exact ⟨[own], last, hlast, hregistry⟩
  · intro h
    rcases h with ⟨requests, s, hs, rfl⟩
    rcases hs.exists_calls with ⟨calls, hregistry, _⟩
    rw [hregistry]
    exact Reachable.empty.after calls

/-! ## What holds in every session -/

/-- All entries are in order and belong to names that have been registered. -/
structure WellKept (s : Session) : Prop where
  entries : forall name handle, (name, handle) ∈ s.registry.handles.entries ->
    handle.name.text = name ∧ ComponentName.parse name = .ok handle.name ∧
      handle.id = ComponentName.idOf name ∧ handle.datatype.validate = .ok ()
  ordered : s.registry.names.Pairwise fun a b => Text.bytes a < Text.bytes b
  listed : forall name, name ∈ s.registry.names ↔
    exists e, e ∈ s.history ∧ e.call.name = name ∧
      exists handle, e.answer = .ok handle

/-- The name stands for the handle, and batches come out as they did before. -/
structure Stands (name : String) (handle : Handle) (before r : Registry) :
    Prop where
  found : r.handle name = .ok handle
  resolved : r.resolve name = .ok handle.datatype
  built : forall (b : BatchBuilder) (descriptor : Descriptor)
    (input : BatchInput),
    descriptor.component.text = name ->
      { b with registry := r }.build descriptor input =
        { b with registry := before }.build descriptor input

section

variable {requests : List (List Request)} {s : Session}

theorem exists_calls_of_start (hs : (start requests).Reaches s) :
    exists calls, s.registry = empty.after calls ∧
      s.history = empty.record calls :=
  hs.exists_calls

theorem wellKept (hs : (start requests).Reaches s) : s.WellKept := by
  rcases exists_calls_of_start hs with ⟨calls, hregistry, hhistory⟩
  have hsound : s.registry.Sound :=
    hregistry ▸ (Reachable.empty.after calls).sound
  refine ⟨?_, ?_, ?_⟩
  · intro name handle hentry
    have hcandidate := hsound name handle (NameMap.find?_eq_some_iff.mpr hentry)
    rcases candidate_eq_ok_iff.mp hcandidate with ⟨hname, hvalid, hhandle⟩
    have hparsed : handle.name = ⟨name⟩ := congrArg Handle.name hhandle
    exact ⟨congrArg ComponentName.text hparsed,
      ComponentName.parse_eq_ok_iff.mpr ⟨hname, hparsed⟩,
      congrArg Handle.id hhandle, hvalid⟩
  · exact List.pairwise_map.mpr
      (s.registry.handles.sorted.imp Text.bytes_lt_bytes)
  · intro name
    rw [names, NameMap.mem_names_iff, hregistry, hhistory]
    constructor
    · intro h
      rcases h with ⟨handle, hfound⟩
      rw [find?_after] at hfound
      rcases exists_of_firstAsked (r := empty) rfl hfound with
        ⟨e, he, hname, hanswer⟩
      exact ⟨e, he, hname, handle, hanswer⟩
    · intro h
      rcases h with ⟨e, he, rfl, handle, hanswer⟩
      exact ⟨handle, (find?_of_mem_record he hanswer).1⟩

theorem stands_of_answer_ok (hs : (start requests).Reaches s) {e : Event}
    {handle : Handle} (he : e ∈ s.history) (hanswer : e.answer = .ok handle)
    {last : Session} (hlast : s.Reaches last) :
    Stands e.call.name handle s.registry last.registry := by
  rcases exists_calls_of_start hs with ⟨calls, hregistry, hhistory⟩
  rcases hlast.exists_calls with ⟨more, hmore, _⟩
  have hfound : s.registry.handles.find? e.call.name = some handle := by
    rw [hregistry]
    exact (find?_of_mem_record (hhistory ▸ he) hanswer).1
  have hbefore : s.registry.handle e.call.name = .ok handle := by
    rw [Registry.handle, hfound]
  have hafter : last.registry.handle e.call.name = .ok handle := by
    rw [Registry.handle, hmore, find?_after, hfound, Option.some_or]
  refine ⟨hafter, ?_, ?_⟩
  · rw [Registry.resolve, hafter]
    rfl
  · intro b descriptor input hname
    apply BatchBuilder.build_congr_registry
    rw [hname, hafter, hbefore]

/--
Whatever callers ask for and however their registrations interleave, the
registry is well kept; a name that has been answered stands for its handle from
then on; the first well-formed registration of a name decides the others; and
those it refuses, like all that fail, change nothing.
-/
theorem registrations_stand (hs : (start requests).Reaches s) :
    s.WellKept ∧
    (forall e handle, e ∈ s.history -> e.answer = .ok handle ->
      handle.datatype = e.call.datatype ∧
        forall last, s.Reaches last ->
          Stands e.call.name handle s.registry last.registry) ∧
    (forall e name, e ∈ s.history ->
      ComponentName.parse e.call.name = .ok name ->
      e.call.datatype.validate = .ok () ->
      exists first, firstAsked e.call.name (s.history.map Event.call) =
        some first ∧
        e.answer =
          if e.call.datatype = first.datatype then .ok first
          else
            .error (.duplicate e.call.name first.datatype.name
              e.call.datatype.name)) ∧
    (forall e fault, e ∈ s.history -> e.answer = .error fault ->
      e.after = e.before) := by
  rcases exists_calls_of_start hs with ⟨calls, hregistry, hhistory⟩
  refine ⟨wellKept hs, ?_, ?_, ?_⟩
  · intro e handle he hanswer
    refine ⟨(find?_of_mem_record (hhistory ▸ he) hanswer).2, ?_⟩
    intro last hlast
    exact stands_of_answer_ok hs he hanswer hlast
  · intro e name he hname hvalid
    have hasked : asked e.call = .ok (.of name e.call.datatype) := by
      rw [asked, candidate, parseName, hname]
      simp only [bind, Except.bind, hvalid]
    rw [hhistory, map_call_record]
    exact answer_of_mem_record (hhistory ▸ he) hasked
  · intro e fault he hanswer
    rw [hhistory] at he
    rcases exists_of_mem_record he with ⟨earlier, later, _, hevent⟩
    rw [hevent] at hanswer ⊢
    exact after_eq_before_of_error hanswer

end

end Session

/-! ## A sample -/

namespace Sample

open Session

def rivalCall : ComponentDef Datatype :=
  ⟨poseName.text, Datatype.primitive "sample.Speed" .f32⟩

def requests : List (List Request) :=
  [[.component poseCall],
    [.provider ⟨"rivals", 1,
      [rivalCall, ⟨"sample.components.Speed", rivalCall.datatype⟩]⟩]]

def contested : Session :=
  ((start requests).register 0 poseCall [] []).register 1 rivalCall
    [⟨"sample.components.Speed", rivalCall.datatype⟩] []

theorem reaches_contested : (start requests).Reaches contested :=
  .tail (.single (.register 0 rfl)) (.register 1 rfl)

theorem firstAsked_contested :
    firstAsked poseName.text [poseCall, rivalCall] =
      some (.of poseName Datatype.Sample.pose) := by
  have hname : poseCall.name = poseName.text := rfl
  rw [firstAsked, List.findSome?_cons, if_pos hname, asked_poseCall]
  rfl

end Sample

open Sample in
theorem Session.registrations_stand_contested :
    contested.registry.handle poseName.text =
      .ok (.of poseName Datatype.Sample.pose) ∧
    exists e, e ∈ contested.history ∧ e.call = rivalCall ∧ e.after = e.before ∧
      e.answer = .error (.duplicate poseName.text "sample.Pose"
        "sample.Speed") := by
  rcases registrations_stand reaches_contested with
    ⟨_, hstands, hdecided, hunchanged⟩
  have hfirst : empty.event poseCall ∈ contested.history := List.mem_cons_self
  have hrival : (empty.event poseCall).after.event rivalCall ∈
      contested.history :=
    List.mem_cons_of_mem _ List.mem_cons_self
  constructor
  · rcases hdecided _ poseName hfirst (by decide) rfl with
      ⟨first, hfound, hanswer⟩
    cases firstAsked_contested.symm.trans hfound
    exact ((hstands _ _ hfirst hanswer).2 contested .refl).found
  · rcases hdecided _ poseName hrival (by decide) rfl with
      ⟨first, hfound, hanswer⟩
    cases firstAsked_contested.symm.trans hfound
    exact ⟨_, hrival, rfl, hunchanged _ _ hrival hanswer, hanswer⟩

end Registry
end Columnar
