import Mathlib.Data.List.Induction
import Seedkeeper.Proofs.Traffic.Lines

/-!
Runs of a log: what its file holds after appends, foreign writes and reopenings in any order.

`Log.step_cases` says what one step does to a log whose file takes bytes: an event adds its entry,
after a newline if that is what opening the file found missing; a foreign write adds its bytes; to
reopen leaves the file alone. So a run only adds to the file. An event's line stays whole whatever
follows it; it starts as a line of its own if the file is not torn where it is written, and a log that
opens its file sees to that (`Log.sublist_wholeLines_after`). Only a log that is open already relies on
what others left, which is what `Log.Tidy` asks of a run.
-/

namespace Seedkeeper.Traffic

open Text (Bytes)

/-- The bytes that a path leads to. -/
def Medium.bytes : Medium → Bytes
  | .file content => content.getD []
  | _ => []

namespace Log

/-! ### Steps and runs -/

/-- What can happen to a log and its file. -/
inductive Step where
  | append (e : Event)
  | record (e : Event)
  /-- Bytes are added to the file behind the log's back. -/
  | writeBehind (bs : Bytes)
  | reopen
  deriving DecidableEq

/-- What the log answers to a step. -/
inductive Answer where
  | appended (outcome : Except Error Unit)
  | recorded (done : Bool)
  | nothing

/-- Whether an answer says that an event was written. -/
def Answer.isOk : Answer → Bool
  | .appended (.ok _) => true
  | .recorded done => done
  | _ => false

/-- The event that a step hands to the log. -/
def Step.event? : Step → Option Event
  | .append e => some e
  | .record e => some e
  | _ => none

/-- One step: the answer to it and the log after it. -/
def step (l : Log) : Step → Answer × Log
  | .append e => (.appended (l.append e).1, (l.append e).2)
  | .record e => (.recorded (l.record e).1, (l.record e).2)
  | .writeBehind bs => (.nothing, { l with medium := l.medium.extend bs })
  | .reopen => (.nothing, l.reopened true)

/-- The log after some steps. -/
def after (l : Log) (steps : List Step) : Log := steps.foldl (fun l s => (l.step s).2) l

/-- The events that the log said it has written, in order. -/
def acknowledged (l : Log) : List Step → List Event
  | [] => []
  | s :: ss =>
    (if (l.step s).1.isOk then s.event?.toList else []) ++ (l.step s).2.acknowledged ss

/-- The bytes that the log's file holds. -/
def bytes (l : Log) : Bytes := l.medium.bytes

/-- Whether the next event would be the first one since the log was made or reopened. -/
def opensNext (past : List Step) : Bool :=
  (past.reverse.takeWhile (· ≠ .reopen)).all (·.event?.isNone)

/-- No event is handed to a log that is open already while its file does not end with a newline. -/
def Tidy (l : Log) : List Step → Prop
  | [] => True
  | s :: ss =>
    (s.event?.isSome → l.state = .opened → l.bytes.getLast? = some 0x0A) ∧ (l.step s).2.Tidy ss

instance decidableTidy : (l : Log) → (steps : List Step) → Decidable (l.Tidy steps)
  | _, [] => inferInstanceAs (Decidable True)
  | l, s :: ss =>
    have := decidableTidy (l.step s).2 ss
    inferInstanceAs (Decidable ((_ → _ → _) ∧ _))

theorem after_append (l : Log) (as bs : List Step) : l.after (as ++ bs) = (l.after as).after bs :=
  List.foldl_append

/-! ### One step -/

/-- A log that is not unavailable, on a file that takes bytes. -/
structure Writable (l : Log) : Prop where
  state : l.state = .unopened ∨ l.state = .opened
  file : ∃ content, l.medium = .file content

theorem writable_onMedium (content : Option Bytes) : Writable (onMedium (.file content)) :=
  ⟨.inl rfl, content, rfl⟩

variable {l : Log}

/-- The newline that the log writes before its next entry, if it does. -/
def lead (l : Log) : Bytes := if l.state = .unopened ∧ Torn l.bytes then [0x0A] else []

/-- An event is written after the newline that opening the file may take. -/
theorem Writable.append_eq (h : l.Writable) (e : Event) :
    l.append e = (.ok (), ⟨.opened, .file (some (l.bytes ++ l.lead ++ entry e))⟩) := by
  obtain ⟨state, medium⟩ := l
  obtain ⟨hstate, content, rfl⟩ := h
  rcases hstate with rfl | rfl
  · have hlead : mended (content.getD []) = content.getD [] ++ lead ⟨.unopened, .file content⟩ := by
      rw [mended_eq, lead]
      simp only [true_and]
      rfl
    change (_, Log.mk .opened (.file (some (mended (content.getD []) ++ entry e)))) = _
    rw [hlead]
    rfl
  · have hlead : lead ⟨.opened, .file content⟩ = [] := if_neg fun hopened => by cases hopened.1
    rw [hlead, List.append_nil]
    rfl

/-- Everything a step can do to a log on a file that takes bytes. -/
theorem step_cases (h : l.Writable) (s : Step) :
    (∃ e, s.event? = some e ∧ (l.step s).1.isOk ∧
      (l.step s).2 = ⟨.opened, .file (some (l.bytes ++ l.lead ++ entry e))⟩) ∨
    (∃ bs, s = .writeBehind bs ∧ (l.step s).1.isOk = false ∧
      (l.step s).2 = ⟨l.state, .file (some (l.bytes ++ bs))⟩) ∨
    (s = .reopen ∧ (l.step s).1.isOk = false ∧ (l.step s).2 = ⟨.unopened, l.medium⟩) := by
  cases s with
  | append e =>
    refine .inl ⟨e, rfl, ?_⟩
    rw [step, h.append_eq]
    exact ⟨rfl, rfl⟩
  | record e =>
    refine .inl ⟨e, rfl, ?_⟩
    rw [step, record, h.append_eq]
    exact ⟨rfl, rfl⟩
  | writeBehind bs =>
    obtain ⟨content, hfile⟩ := h.file
    refine .inr (.inl ⟨bs, rfl, rfl, ?_⟩)
    simp only [step, bytes, hfile, Medium.extend, Medium.bytes]
  | reopen => exact .inr (.inr ⟨rfl, rfl, rfl⟩)

theorem Writable.step (h : l.Writable) (s : Step) : (l.step s).2.Writable := by
  rcases step_cases h s with ⟨e, _, _, hs⟩ | ⟨bs, _, _, hs⟩ | ⟨_, _, hs⟩
  · rw [hs]; exact ⟨.inr rfl, _, rfl⟩
  · rw [hs]; exact ⟨h.state, _, rfl⟩
  · rw [hs]; exact ⟨.inl rfl, h.file⟩

/-- A step only adds to the file. -/
theorem bytes_prefix_step (h : l.Writable) (s : Step) : l.bytes <+: (l.step s).2.bytes := by
  rcases step_cases h s with ⟨e, _, _, hs⟩ | ⟨bs, _, _, hs⟩ | ⟨_, _, hs⟩
  · rw [hs]
    change l.bytes <+: l.bytes ++ l.lead ++ entry e
    rw [List.append_assoc]
    exact List.prefix_append _ _
  · rw [hs]
    exact List.prefix_append _ _
  · rw [hs]
    exact List.prefix_rfl

/-- Where the file of a log that is open already is not torn, the last line is ended before every
    entry. -/
theorem bytes_append_lead (h : l.Writable) (hopened : l.state = .opened → ¬ Torn l.bytes) :
    l.bytes ++ l.lead = mended l.bytes := by
  rcases h.state with hstate | hstate
  · rw [mended_eq, lead, hstate]
    simp only [true_and]
  · have hlead : l.lead = [] := if_neg fun hunopened => by rw [hstate] at hunopened; cases hunopened.1
    rw [hlead, List.append_nil, mended_of_not_torn (hopened hstate)]

/-! ### Runs -/

theorem Writable.after (h : l.Writable) : ∀ steps : List Step, (l.after steps).Writable := by
  intro steps
  induction steps generalizing l with
  | nil => exact h
  | cons s ss ih => exact ih (h.step s)

/-- A run only adds to the file. -/
theorem bytes_prefix_after (h : l.Writable) (steps : List Step) :
    l.bytes <+: (l.after steps).bytes := by
  induction steps generalizing l with
  | nil => exact List.prefix_rfl
  | cons s ss ih => exact (bytes_prefix_step h s).trans (ih (h.step s))

/-- Every event that is handed to the log is acknowledged. -/
theorem acknowledged_eq (h : l.Writable) (steps : List Step) :
    l.acknowledged steps = steps.filterMap Step.event? := by
  induction steps generalizing l with
  | nil => rfl
  | cons s ss ih =>
    rw [acknowledged, ih (h.step s)]
    rcases step_cases h s with ⟨e, he, hok, _⟩ | ⟨bs, rfl, hok, _⟩ | ⟨rfl, hok, _⟩
    · rw [if_pos hok, he, List.filterMap_cons_some he]
      rfl
    · rw [if_neg (by rw [hok]; exact Bool.false_ne_true)]
      rfl
    · rw [if_neg (by rw [hok]; exact Bool.false_ne_true)]
      rfl

theorem opensNext_concat (past : List Step) (s : Step) :
    opensNext (past ++ [s]) = (s = .reopen || (s.event?.isNone && opensNext past)) := by
  rw [opensNext, List.reverse_append, List.reverse_singleton, List.singleton_append]
  by_cases hs : s = .reopen
  · rw [List.takeWhile_cons_of_neg (by simpa using hs)]
    simp [hs]
  · rw [List.takeWhile_cons_of_pos (by simpa using hs), List.all_cons]
    simp [hs, opensNext]

/-- The log's state tells whether an event was handed to it since it was made or reopened. -/
theorem state_after (content : Option Bytes) (past : List Step) :
    ((onMedium (.file content)).after past).state
      = if opensNext past then .unopened else .opened := by
  induction past using List.reverseRecOn with
  | nil => rfl
  | append_singleton past s ih =>
    have hstep := step_cases ((writable_onMedium content).after past) s
    rw [after_append, opensNext_concat]
    change (Log.step _ s).2.state = _
    rcases hstep with ⟨e, he, _, hs⟩ | ⟨bs, rfl, _, hs⟩ | ⟨rfl, _, hs⟩
    · have hne : s ≠ .reopen := by
        rintro rfl
        cases he
      rw [hs]
      simp [he, hne]
    · rw [hs]
      simpa [Step.event?] using ih
    · rw [hs]
      simp

/-- The lines of events that were whole before a tidy run, and those of its own events, are whole lines
    of the file after it, in order. -/
theorem sublist_wholeLines_after (es : List Event) (h : l.Writable) (steps : List Step)
    (htidy : l.Tidy steps) (hes : (es.map Event.line).Sublist (wholeLines l.bytes)) :
    ((es ++ steps.filterMap Step.event?).map Event.line).Sublist
      (wholeLines (l.after steps).bytes) := by
  induction steps generalizing l es with
  | nil =>
    rw [List.filterMap_nil, List.append_nil]
    exact hes
  | cons s ss ih =>
    obtain ⟨hlast, hrest⟩ := htidy
    have hkept : (es.map Event.line).Sublist (wholeLines (l.step s).2.bytes) := by
      obtain ⟨added, hadded⟩ := bytes_prefix_step h s
      rw [← hadded]
      exact hes.trans (wholeLines_prefix_append _ _).sublist
    cases he : s.event? with
    | none =>
      rw [List.filterMap_cons_none he]
      exact ih es (h.step s) hrest hkept
    | some e =>
      have hwritten : ((es ++ [e]).map Event.line).Sublist (wholeLines (l.step s).2.bytes) := by
        have hfit : ¬ Torn (l.bytes ++ l.lead) := by
          rw [bytes_append_lead h fun hopened htorn => htorn.2 (hlast (by rw [he]; rfl) hopened)]
          exact not_torn_mended l.bytes
        rcases step_cases h s with ⟨e', he', _, hs⟩ | ⟨bs, rfl, _⟩ | ⟨rfl, _⟩
        · obtain rfl : e = e' := Option.some.inj (he.symm.trans he')
          rw [hs]
          change List.Sublist _ (wholeLines (l.bytes ++ l.lead ++ (e.line ++ [0x0A])))
          rw [wholeLines_append_line hfit e.newline_notMem_line, List.map_append]
          exact (hes.trans (wholeLines_prefix_append _ _).sublist).append (List.Sublist.refl _)
        · cases he
        · cases he
      have hrun := ih (es ++ [e]) (h.step s) hrest hwritten
      rwa [List.append_assoc, List.singleton_append, ← List.filterMap_cons_some he] at hrun

/-- Whatever a file holds at first, a run of a fresh log on it only adds to it. An event adds its line
    and a newline, after one newline exactly if it is the first event since the log was made or
    reopened and the last line of the file is torn. If no event meets an open log on a file that does
    not end with a newline, all events are acknowledged, and at the end they are whole lines of the
    file, in order, from which they are read back. -/
theorem acknowledged_whole (content : Option Bytes) :
    (∀ past later : List Step, ((onMedium (.file content)).after past).bytes
      <+: ((onMedium (.file content)).after (past ++ later)).bytes) ∧
    (∀ (past : List Step) (s : Step) (e : Event), s.event? = some e →
      ((onMedium (.file content)).after (past ++ [s])).bytes
        = ((onMedium (.file content)).after past).bytes ++
          (if opensNext past ∧ Torn ((onMedium (.file content)).after past).bytes then [0x0A] else [])
          ++ e.line ++ [0x0A]) ∧
    ∀ steps : List Step, (onMedium (.file content)).Tidy steps →
      (onMedium (.file content)).acknowledged steps = steps.filterMap Step.event? ∧
      (((onMedium (.file content)).acknowledged steps).map Event.line).Sublist
        (wholeLines ((onMedium (.file content)).after steps).bytes) ∧
      ∀ e ∈ (onMedium (.file content)).acknowledged steps, Event.ofLine? e.line = some e := by
  have hstart := writable_onMedium content
  refine ⟨fun past later => ?_, fun past s e he => ?_, fun steps htidy => ?_⟩
  · rw [after_append]
    exact bytes_prefix_after (hstart.after past) later
  · rw [after_append]
    change (Log.step _ s).2.bytes = _
    rcases step_cases (hstart.after past) s with ⟨e', he', _, hs⟩ | ⟨bs, rfl, _⟩ | ⟨rfl, _⟩
    · obtain rfl : e = e' := Option.some.inj (he.symm.trans he')
      have hopens : ((onMedium (.file content)).after past).state = .unopened ↔ opensNext past := by
        rw [state_after]
        cases opensNext past <;> simp
      rw [hs]
      change _ ++ lead _ ++ (e.line ++ [0x0A]) = _
      simp only [lead, hopens, List.append_assoc]
    · cases he
    · cases he
  · have hack := acknowledged_eq hstart steps
    have hwhole := sublist_wholeLines_after [] hstart steps htidy (List.nil_sublist _)
    rw [hack]
    exact ⟨rfl, hwhole, fun e _ => Event.ofLine?_line e⟩

/-- A torn file, an event, foreign bytes, a reopening and an event again: both are whole lines. -/
theorem acknowledged_whole_of_reopen :
    (onMedium (.file (some [0x7B]))).Tidy
        [.append closedAfterTwoDays, .writeBehind [0x7B], .reopen, .record closedAfterTwoDays] ∧
      [closedAfterTwoDays.line, closedAfterTwoDays.line].Sublist (wholeLines
        ((onMedium (.file (some [0x7B]))).after [.append closedAfterTwoDays, .writeBehind [0x7B],
          .reopen, .record closedAfterTwoDays]).bytes) := by
  have htidy : (onMedium (.file (some [0x7B]))).Tidy
      [.append closedAfterTwoDays, .writeBehind [0x7B], .reopen, .record closedAfterTwoDays] := by
    decide +kernel
  obtain ⟨hall, hwhole, _⟩ := (acknowledged_whole (some [0x7B])).2.2 _ htidy
  rw [hall] at hwhole
  exact ⟨htidy, hwhole⟩

end Log

end Seedkeeper.Traffic
