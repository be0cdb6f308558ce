import Columnar.Proofs.Registry.Providers

/-!
# How far a provider gets

The components of a provider are registered up to the first one that is refused
when its turn comes.  Those before it are entered and nothing else is.  A second
attempt finds them in place, stops where the first one did, and is answered in
the same way.
-/

namespace Columnar
namespace Registry

/--
Why the registry does not take a component: its name, its datatype, or what is
there already.
-/
inductive Refuses (r : Registry) (c : ComponentDef Datatype) :
    RegistryError -> Prop
  | malformed {fault : NameFault} : ComponentName.parse c.name = .error fault ->
      Refuses r c (.invalidName c.name fault)
  | invalid {name : ComponentName} {fault : InvalidDatatype} :
      ComponentName.parse c.name = .ok name ->
      c.datatype.validate = .error fault ->
        Refuses r c (.invalidDatatype fault)
  | conflict {name : ComponentName} {existing : Handle} :
      ComponentName.parse c.name = .ok name -> c.datatype.validate = .ok () ->
        r.handle c.name = .ok existing -> existing.datatype ≠ c.datatype ->
          Refuses r c (.duplicate c.name existing.datatype.name c.datatype.name)

/--
The component in this position is refused when its turn comes, and none before
it is.
-/
structure FirstRefused (r : Registry)
    (components : List (ComponentDef Datatype)) (position : Nat)
    (e : RegistryError) : Prop where
  refused : exists c, components[position]? = some c ∧
    (r.after (components.take position)).Refuses c e
  earlier : forall index, index < position ->
    forall c, components[index]? = some c ->
    forall e, ¬ (r.after (components.take index)).Refuses c e

/-- The entries of a registry and those of the components, and no others. -/
structure Extended (r : Registry) (components : List (ComponentDef Datatype))
    (last : Registry) :
    Prop where
  entered : forall c, c ∈ components -> last.handle c.name = .ok (handleOf c)
  kept : forall name handle, r.handle name = .ok handle ->
    last.handle name = .ok handle
  others : forall name, name ∉ components.map ComponentDef.name ->
    last.handle name = r.handle name

variable {r : Registry} {calls earlier later : List (ComponentDef Datatype)}
  {c : ComponentDef Datatype} {handles : List Handle} {e : RegistryError}

/-! ## One component -/

theorem asked_eq_error_iff :
    asked c = .error e ↔
      (exists fault, ComponentName.parse c.name = .error fault ∧
        e = .invalidName c.name fault) ∨
      exists name fault, ComponentName.parse c.name = .ok name ∧
        c.datatype.validate = .error fault ∧ e = .invalidDatatype fault := by
  rw [asked, candidate, parseName]
  cases ComponentName.parse c.name with
  | error fault => simp [bind, Except.bind, eq_comm]
  | ok name => cases c.datatype.validate <;> simp [bind, Except.bind, eq_comm]

theorem answer_of_refuses (h : r.Refuses c e) :
    (r.event c).answer = .error e := by
  cases h with
  | malformed hname =>
      rw [event_of_asked_error (asked_eq_error_iff.mpr (.inl ⟨_, hname, rfl⟩))]
  | invalid hname hinvalid =>
      rw [event_of_asked_error
          (asked_eq_error_iff.mpr (.inr ⟨_, _, hname, hinvalid, rfl⟩))]
  | conflict hname hvalid hexisting hother =>
      have hasked := asked_eq_ok_iff.mpr
        ⟨ComponentName.exists_parse_iff.mp ⟨_, hname⟩, hvalid, rfl⟩
      rw [event_of_asked_ok hasked, handle_eq_ok_iff.mp hexisting]
      dsimp only
      rw [if_neg hother]

theorem refuses_of_answer (h : (r.event c).answer = .error e) :
    r.Refuses c e := by
  cases hasked : asked c with
  | error fault =>
      rw [event_of_asked_error hasked] at h
      cases h
      rcases asked_eq_error_iff.mp hasked with
        ⟨_, hname, rfl⟩ | ⟨_, _, hname, hinvalid, rfl⟩
      · exact .malformed hname
      · exact .invalid hname hinvalid
  | ok handle =>
      rcases asked_eq_ok_iff.mp hasked with ⟨hparsed, hvalid, _⟩
      rcases ComponentName.exists_parse_iff.mpr hparsed with ⟨name, hname⟩
      rw [event_of_asked_ok hasked] at h
      cases hfound : r.handles.find? c.name with
      | none =>
          rw [hfound] at h
          cases h
      | some existing =>
          rw [hfound] at h
          dsimp only at h
          split at h
          · cases h
          · next hother =>
              cases h
              exact .conflict hname hvalid (handle_eq_ok_iff.mpr hfound) hother

theorem answer_eq_error_iff : (r.event c).answer = .error e ↔ r.Refuses c e :=
  ⟨refuses_of_answer, answer_of_refuses⟩

theorem register_of_refuses (h : r.Refuses c e) :
    r.register c.name c.datatype = (.error e, r) := by
  have hanswer : (r.event c).answer = .error e := answer_eq_error_iff.mpr h
  exact Prod.ext hanswer (after_eq_before_of_error hanswer)

theorem exists_answer_iff :
    (exists handle, (r.event c).answer = .ok handle) ↔
      forall e, ¬ r.Refuses c e := by
  simp only [← answer_eq_error_iff]
  cases (r.event c).answer with
  | error e => simp
  | ok handle => simp

/-! ## Components in turn -/

theorem exists_answered_iff :
    (exists handles, r.Answered calls handles) ↔
      forall index c, calls[index]? = some c ->
        forall e, ¬ (r.after (calls.take index)).Refuses c e := by
  induction calls generalizing r with
  | nil => exact iff_of_true ⟨[], .nil⟩ nofun
  | cons call rest ih =>
      constructor
      · rintro ⟨_, _ | ⟨hcall, hrest⟩⟩ index c hc
        cases index with
        | zero =>
            cases hc
            exact exists_answer_iff.mp ⟨_, hcall⟩
        | succ index => exact ih.mp ⟨_, hrest⟩ index c hc
      · intro h
        rcases exists_answer_iff.mpr (h 0 call rfl) with ⟨handle, hcall⟩
        rcases ih.mpr fun index c hc => h (index + 1) c hc with ⟨others, hrest⟩
        exact ⟨_, answered_cons hcall hrest⟩

theorem registerEach_append (h : r.Answered earlier handles) :
    r.registerEach (earlier ++ later) =
      (((r.after earlier).registerEach later).1.map (handles ++ ·),
        ((r.after earlier).registerEach later).2) := by
  induction earlier generalizing r handles with
  | nil =>
      cases h
      rw [List.nil_append, after]
      cases r.registerEach later with
      | mk answer last => cases answer <;> rfl
  | cons call rest ih =>
      cases h with
      | cons hcall hrest =>
          rw [List.cons_append, registerEach_cons, hcall, ih hrest, after]
          dsimp only
          cases ((r.event call).after.after rest).registerEach later with
          | mk answer last => cases answer <;> rfl

theorem registerEach_of_refuses (h : r.Refuses c e) :
    r.registerEach (c :: later) = (.error e, r) := by
  have hanswer := answer_eq_error_iff.mpr h
  rw [registerEach_cons, hanswer]
  dsimp only
  rw [after_eq_before_of_error hanswer]

theorem FirstRefused.exists_answered {position : Nat}
    (h : r.FirstRefused calls position e) :
    exists handles, r.Answered (calls.take position) handles := by
  apply exists_answered_iff.mpr
  intro index c hc e
  rw [List.getElem?_take] at hc
  split at hc
  · next hindex =>
      rw [List.take_take, Nat.min_eq_left (Nat.le_of_lt hindex)]
      exact h.earlier index hindex c hc e
  · cases hc

theorem registerEach_of_firstRefused {position : Nat}
    (h : r.FirstRefused calls position e) :
    r.registerEach calls = (.error e, r.after (calls.take position)) := by
  rcases h.exists_answered with ⟨handles, hanswered⟩
  rcases h.refused with ⟨c, hc, hrefuses⟩
  rcases List.getElem?_eq_some_iff.mp hc with ⟨hlt, rfl⟩
  calc r.registerEach calls
      = r.registerEach
        (calls.take position ++ calls[position] ::
          calls.drop (position + 1)) := by
        rw [← List.drop_eq_getElem_cons hlt, List.take_append_drop]
    _ = (.error e, r.after (calls.take position)) := by
        rw [registerEach_append hanswered, registerEach_of_refuses hrefuses]
        rfl

theorem exists_answered_of_not_firstRefused
    (h : forall position e, ¬ r.FirstRefused calls position e) :
    exists handles, r.Answered calls handles := by
  apply exists_answered_iff.mpr
  intro index
  induction index using Nat.strong_induction_on with
  | h index ih =>
      intro c hc e hrefuses
      exact h index e ⟨⟨c, hc, hrefuses⟩, ih⟩

theorem exists_reached (r : Registry) (calls : List (ComponentDef Datatype)) :
    exists reached rest handles, calls = reached ++ rest ∧
      r.Answered reached handles ∧
      (r.registerEach calls).2 = r.after reached := by
  have hloaded := loaded_registerEach r calls
  generalize r.registerEach calls = outcome at hloaded ⊢
  cases hloaded with
  | all hall => exact ⟨calls, [], _, (List.append_nil calls).symm, hall, rfl⟩
  | stops hsplit hearlier _ => exact ⟨_, _, _, hsplit, hearlier, rfl⟩

/-! ## Components that are in place -/

theorem event_of_standing (hasked : asked c = .ok (handleOf c))
    (h : r.handles.find? c.name = some (handleOf c)) :
    r.event c = ⟨c, r, .ok (handleOf c), r⟩ := by
  rw [event_of_asked_ok hasked, h]
  exact if_pos rfl

theorem registerEach_of_standing
    (h : forall c, c ∈ earlier ->
      asked c = .ok (handleOf c) ∧ r.handles.find? c.name = some (handleOf c)) :
    r.after earlier = r ∧ r.Answered earlier (earlier.map handleOf) := by
  induction earlier with
  | nil => exact ⟨rfl, .nil⟩
  | cons call rest ih =>
      rw [List.forall_mem_cons] at h
      have hcall := event_of_standing h.1.1 h.1.2
      rcases ih h.2 with ⟨hafter, hanswered⟩
      constructor
      · rw [after, hcall, hafter]
      · refine answered_cons ?_ ?_
        · rw [hcall]
        · rw [hcall]
          exact hanswered

section

variable (hr : r.Reachable)

include hr

theorem standing_of_answered (h : r.Answered calls handles) :
    forall c, c ∈ calls ->
      asked c = .ok (handleOf c) ∧ (r.after calls).handles.find? c.name =
        some (handleOf c) := by
  intro c hc
  have hanswers := ((answered_iff hr).mp h).1
  refine ⟨?_, find?_after_of_answers hanswers hc⟩
  rw [← map_call_record r calls] at hc
  rcases List.mem_map.mp hc with ⟨event, hevent, rfl⟩
  rcases exists_of_mem_record hevent with ⟨before, _, _, hturn⟩
  have hanswer := hanswers event hevent
  rw [hturn] at hanswer
  exact asked_of_answer_ok hanswer

/--
A run that has been answered can be made again: the answers are the same,
nothing changes.
-/
theorem registerEach_again (h : r.Answered earlier handles) :
    (r.after earlier).registerEach (earlier ++ later) = r.registerEach
      (earlier ++ later) := by
  rcases registerEach_of_standing (standing_of_answered hr h) with
    ⟨hafter, hagain⟩
  rw [registerEach_append hagain, hafter, registerEach_append h,
    ((answered_iff hr).mp h).2]

theorem load_again (p : Provider) : (r.load p).2.load p = r.load p := by
  rcases exists_reached r p.components with
    ⟨reached, rest, handles, hcalls, hreached, hlast⟩
  rw [load, load, hlast, hcalls]
  exact registerEach_again hr hreached

theorem extended_after (h : r.Answered calls handles) :
    r.Extended calls (r.after calls) where
  entered := by
    intro c hc
    exact handle_eq_ok_iff.mpr (standing_of_answered hr h c hc).2
  kept := by
    intro name handle hhandle
    rw [handle_eq_ok_iff] at hhandle ⊢
    rw [find?_after, hhandle, Option.some_or]
  others := by
    intro name hname
    have hnone : firstAsked name calls = none := by
      apply List.findSome?_eq_none_iff.mpr
      intro c hc
      exact if_neg fun heq => hname (List.mem_map.mpr ⟨c, hc, heq⟩)
    rw [Registry.handle, find?_after, hnone, Option.or_none, ← Registry.handle]

/--
A provider is registered up to the first of its components that is refused when
its turn comes, and the answer is the error of that one; if none is, the answer
is a handle for each component, in order.  The registry is extended by the
components before it and by nothing else, and a second attempt does and answers
the same.
-/
theorem load_stops_at_first_refused (p : Provider) :
    ((forall position e, ¬ r.FirstRefused p.components position e) ->
      (r.load p).1 = .ok (p.components.map handleOf) ∧
        r.Extended p.components (r.load p).2) ∧
    (forall position e, r.FirstRefused p.components position e ->
      (r.load p).1 = .error e ∧ r.Extended (p.components.take position)
        (r.load p).2 ∧
        forall c, p.components[position]? = some c ->
          (r.load p).2.register c.name c.datatype = (.error e, (r.load p).2)) ∧
    (r.load p).2.load p = r.load p := by
  refine ⟨?_, ?_, load_again hr p⟩
  · intro h
    rcases exists_answered_of_not_firstRefused h with ⟨handles, hanswered⟩
    rw [load, registerEach_of_answered hanswered,
      ((answered_iff hr).mp hanswered).2]
    exact ⟨rfl, extended_after hr hanswered⟩
  · intro position e h
    rcases h.exists_answered with ⟨handles, hanswered⟩
    rcases h.refused with ⟨c, hc, hrefuses⟩
    rw [load, registerEach_of_firstRefused h]
    refine ⟨rfl, extended_after hr hanswered, ?_⟩
    intro other hother
    cases hc.symm.trans hother
    exact register_of_refuses hrefuses

end

/-! ## A sample -/

namespace Sample

def paceName : ComponentName := ⟨"sample.components.Pace"⟩

def paceCall : ComponentDef Datatype :=
  ⟨paceName.text, Datatype.primitive "sample.Pace" .f32⟩

def strideCall : ComponentDef Datatype :=
  ⟨paceName.text, Datatype.primitive "sample.Stride" .u32⟩

def gaitCall : ComponentDef Datatype :=
  ⟨"sample.components.Gait", Datatype.primitive "sample.Gait" .u8⟩

def reachedComponents : List (ComponentDef Datatype) := [paceCall, poseCall]

def contraryProvider : Provider :=
  ⟨"contrary", 1, reachedComponents ++ [strideCall, gaitCall]⟩

theorem admits_reachedComponents : poseRegistry.Admits reachedComponents where
  named := by
    intro component hcomponent
    apply ComponentName.exists_parse_iff.mpr
    revert component
    decide
  among := by
    decide
  against := by
    intro component hcomponent existing hexisting
    rcases eq_of_handle_poseRegistry hexisting with ⟨hname, rfl⟩
    have hpose : forall component, component ∈ reachedComponents ->
        component.name = poseName.text ->
        component.datatype = Datatype.Sample.pose := by
      decide
    exact hpose component hcomponent hname

theorem answered_reachedComponents :
    poseRegistry.Answered reachedComponents
      (reachedComponents.map handleOf) := by
  apply fst_registerEach_eq_ok_iff.mp
  exact (registerEach_eq_ok_iff reachable_poseRegistry (by decide)).mpr
    ⟨admits_reachedComponents, rfl⟩

theorem firstRefused_contraryProvider :
    poseRegistry.FirstRefused contraryProvider.components 2
      (.duplicate paceName.text "sample.Pace" "sample.Stride") where
  refused := by
    have hname : ComponentName.parse strideCall.name = .ok paceName := by decide
    have hvalid : strideCall.datatype.validate = .ok () := by decide
    have hpace : (poseRegistry.after reachedComponents).handle strideCall.name =
        .ok (handleOf paceCall) :=
      (extended_after reachable_poseRegistry
        answered_reachedComponents).entered _
        List.mem_cons_self
    have hdiffers : (handleOf paceCall).datatype ≠ strideCall.datatype := by
      decide
    exact ⟨strideCall, rfl, .conflict hname hvalid hpace hdiffers⟩
  earlier := by
    have hnone := exists_answered_iff.mp ⟨_, answered_reachedComponents⟩
    intro index hindex c hc e
    have hcomponents : contraryProvider.components.take 2 =
      reachedComponents := rfl
    have hreached : reachedComponents[index]? = some c := by
      rw [← hcomponents, List.getElem?_take_of_lt hindex, hc]
    have htake : contraryProvider.components.take index =
        reachedComponents.take index := by
      rw [← hcomponents, List.take_take, Nat.min_eq_left (Nat.le_of_lt hindex)]
    rw [htake]
    exact hnone index c hreached e

end Sample

open Sample in
theorem load_stops_at_contrary :
    (poseRegistry.load contraryProvider).1 =
        .error (.duplicate paceName.text "sample.Pace" "sample.Stride") ∧
      (poseRegistry.load contraryProvider).2.handle gaitCall.name =
        poseRegistry.handle gaitCall.name ∧
      (poseRegistry.load contraryProvider).2.load contraryProvider =
        poseRegistry.load contraryProvider := by
  rcases load_stops_at_first_refused reachable_poseRegistry contraryProvider
    with ⟨_, hstops, hagain⟩
  rcases hstops 2 _ firstRefused_contraryProvider with ⟨herror, hextended, _⟩
  exact ⟨herror, hextended.others _ (by decide), hagain⟩

end Registry
end Columnar
