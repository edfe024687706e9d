import DatasetProvisioner.Cluster.Store
import DatasetProvisioner.Proofs.Sample
import DatasetProvisioner.Proofs.VolumeRuns

/-!
# The mark of a released volume

A retained volume is marked once with the time of its release. Notices of volumes are handled one
after the other, whatever they say and however often they come, while others edit the objects and
calls to the cluster fail before or after they took effect. What others are taken to leave alone is
the mark itself, and the names of volumes that were deleted: a volume that is made anew under an old
name is another volume.
-/
namespace DatasetProvisioner

open Manifest

/-! ## What a store holds -/

namespace Cluster.Store

variable {store : Store}

def mark? (store : Store) (volumeName : String) : Option String :=
  (store.volume? volumeName).bind (·.annotations[Key.releasedAt]?)

theorem mark?_of_none {volumeName : String} (h : store.volume? volumeName = none) :
    store.mark? volumeName = none := by
  rw [mark?, h, Option.bind_none]

theorem volume?_dropVolume (volumeName other : String) :
    (store.dropVolume volumeName).volume? other =
      if volumeName = other then none else store.volume? other := by
  unfold dropVolume volume?
  rw [Std.ExtTreeMap.getElem?_erase]
  simp only [Std.LawfulEqCmp.compare_eq_iff_eq]

theorem annotate_of_none {volumeName : String} (h : store.volume? volumeName = none)
    (key value : String) : store.annotate volumeName key value = store := by
  simp only [annotate, h]

theorem volume?_annotate_of_ne {volumeName other : String} (h : volumeName ≠ other)
    (key value : String) :
    (store.annotate volumeName key value).volume? other = store.volume? other := by
  unfold annotate
  split
  · rfl
  · unfold volume?
    rw [Std.ExtTreeMap.getElem?_insert]
    simp only [Std.LawfulEqCmp.compare_eq_iff_eq, h, if_false]

theorem mark?_annotate {volumeName : String} (h : store.volume? volumeName ≠ none)
    (value : String) :
    (store.annotate volumeName Key.releasedAt value).mark? volumeName = some value := by
  obtain ⟨volume, hvolume⟩ := Option.ne_none_iff_exists'.mp h
  unfold mark? annotate
  simp only [hvolume]
  unfold volume?
  rw [Std.ExtTreeMap.getElem?_insert_self, Option.bind_some]
  exact Std.ExtTreeMap.getElem?_insert_self

end Cluster.Store

namespace Release

open Cluster Reconciler
open Simulation.Peers (refusal)

/-- The stored objects, what is left to do for the notice that is being handled, and the marks that
were written so far, with their volumes, the latest first. -/
structure Moment where
  store : Store
  task : Option (Program Reconciler.interface (Except Failure VolumeOutcome)) := none
  marks : List (String × String) := []

/-- The mark that a call writes: there is none to write on where no volume is stored. -/
def written (store : Store) : Cluster.Call → List (String × String)
  | .annotateVolume volumeName key value =>
    if key = Key.releasedAt ∧ (store.volume? volumeName).isSome then [(volumeName, value)] else []
  | _ => []

/-- A volume was stored under a name at one of some moments. -/
def Known (moments : List Moment) (volumeName : String) : Prop :=
  ∃ earlier ∈ moments, earlier.store.volume? volumeName ≠ none

/-- What others may do to the stored objects: anything but to change a mark or to bring a volume
back under a known name. -/
structure Edited (moments : List Moment) (before after : Store) : Prop where
  marks : ∀ volumeName, before.volume? volumeName ≠ none → after.volume? volumeName ≠ none →
    after.mark? volumeName = before.mark? volumeName
  gone : ∀ volumeName, Known moments volumeName → before.volume? volumeName = none →
    after.volume? volumeName = none

/-- What may come next, given the present and the past. -/
inductive Move (settings : Settings) (m : Moment) (past : List Moment) : Moment → Prop where
  | edited (store : Store) (edit : Edited (m :: past) m.store store) :
    Move settings m past { m with store }
  /-- Any notice may come, however old. -/
  | begun (event : VolumeEvent) (idle : m.task = none) :
    Move settings m past { m with task := some (handleVolume settings event) }
  /-- The cluster does what it is asked to, and says so or fails to. -/
  | carriedOut (c : Cluster.Call)
      (next : c.Answer → Program Reconciler.interface (Except Failure VolumeOutcome))
      (waiting : m.task = some (.ask (I := Reconciler.interface) (.cluster c) next))
      (answer : c.Answer)
      (told : answer = (m.store.perform c).1 ∨ ∃ failure, answer = refusal failure c) :
    Move settings m past
      { store := (m.store.perform c).2
        task := some (next answer)
        marks := written m.store c ++ m.marks }
  /-- The cluster fails and does nothing. -/
  | failed (c : Cluster.Call)
      (next : c.Answer → Program Reconciler.interface (Except Failure VolumeOutcome))
      (waiting : m.task = some (.ask (I := Reconciler.interface) (.cluster c) next))
      (failure : Failure) :
    Move settings m past { m with task := some (next (refusal failure c)) }
  /-- Another peer answers. -/
  | answered (c : Reconciler.Call)
      (next : c.Answer → Program Reconciler.interface (Except Failure VolumeOutcome))
      (waiting : m.task = some (.ask (I := Reconciler.interface) c next))
      (aside : ∀ call, c ≠ .cluster call) (answer : c.Answer) :
    Move settings m past { m with task := some (next answer) }
  /-- The handling comes to its end, or the controller starts anew. -/
  | ended : Move settings m past { m with task := none }

/-- A moment, and all that went before it, the latest first. -/
inductive History (settings : Settings) : Moment → List Moment → Prop where
  | start (store : Store) : History settings { store } []
  | move {m next : Moment} {past : List Moment} (before : History settings m past)
      (move : Move settings m past next) : History settings next (m :: past)

/-! ## Between the look and the mark -/

/-- The handling of a notice has found the volume unmarked, and has not yet gone on to mark it. -/
inductive Pending (event : VolumeEvent) : Trace → Prop where
  | found (stored : Volume) (h : Key.releasedAt ∉ stored.annotations) :
    Pending event [onCluster (.readVolume event.volumeName) (.ok (some stored))]
  | timed (stored : Volume) (h : Key.releasedAt ∉ stored.annotations) (now : Timestamp) :
    Pending event
      [onCluster (.readVolume event.volumeName) (.ok (some stored)), onClock now]

theorem pending_append {event : VolumeEvent} {trace : Trace} {x : Exchange Reconciler.interface}
    (pending : Pending event (trace ++ [x])) :
    (∃ stored, x = onCluster (.readVolume event.volumeName) (.ok (some stored)) ∧
      Key.releasedAt ∉ stored.annotations) ∨
    Pending event trace ∧ ∃ now, x = onClock now := by
  generalize hwhole : trace ++ [x] = whole at pending
  cases pending with
  | found stored h =>
    have hcut : trace ++ [x] = [] ++ [_] := hwhole
    obtain ⟨-, hx⟩ := List.append_inj' hcut rfl
    exact .inl ⟨stored, List.singleton_inj.mp hx, h⟩
  | timed stored h now =>
    have hcut : trace ++ [x] = [_] ++ [onClock now] := hwhole
    obtain ⟨rfl, hx⟩ := List.append_inj' hcut rfl
    exact .inr ⟨.found stored h, now, List.singleton_inj.mp hx⟩

/-- A call to the cluster where a volume was found unmarked is the look or the mark. -/
theorem call_of_marking {event : VolumeEvent} {stored : Volume}
    (h : Key.releasedAt ∉ stored.annotations) {now : Timestamp} {trace rest tail : Trace}
    {c : Cluster.Call} {answer : c.Answer} {said : Except Failure Unit}
    (hwhole : trace ++ onCluster c answer :: rest =
      onCluster (.readVolume event.volumeName) (.ok (some stored)) :: onClock now ::
        onCluster (.annotateVolume event.volumeName Key.releasedAt (toString now.seconds)) said ::
          tail)
    (aside : ∀ c answer, onCluster c answer ∉ tail) :
    c = .readVolume event.volumeName ∨ ∃ now : Timestamp,
      c = .annotateVolume event.volumeName Key.releasedAt (toString now.seconds) ∧
        Pending event trace := by
  rcases trace with _ | ⟨x, _ | ⟨y, _ | ⟨z, trace⟩⟩⟩
  · simp only [List.nil_append, List.cons.injEq, Exchange.mk.injEq, Call.cluster.injEq] at hwhole
    exact .inl hwhole.1.1
  · simp at hwhole
  · simp only [List.cons_append, List.nil_append, List.cons.injEq, Exchange.mk.injEq,
      Call.cluster.injEq] at hwhole
    obtain ⟨rfl, rfl, ⟨hc, -⟩, -⟩ := hwhole
    exact .inr ⟨now, hc, .timed stored h now⟩
  · simp only [List.cons_append, List.cons.injEq] at hwhole
    obtain ⟨-, -, -, rfl⟩ := hwhole
    exact absurd (List.mem_append_right trace List.mem_cons_self) (aside c answer)

theorem call_of_markRun {event : VolumeEvent} {trace rest : Trace} {c : Cluster.Call}
    {answer : c.Answer} {outcome : Except Failure VolumeOutcome}
    (run : MarkRun event (trace ++ onCluster c answer :: rest) outcome) :
    c = .readVolume event.volumeName ∨ ∃ now : Timestamp,
      c = .annotateVolume event.volumeName Key.releasedAt (toString now.seconds) ∧
        Pending event trace := by
  generalize hwhole : trace ++ onCluster c answer :: rest = whole at run
  have alone {read : Except Failure (Option Volume)}
      (h : trace ++ onCluster c answer :: rest =
        [onCluster (.readVolume event.volumeName) read]) : c = .readVolume event.volumeName := by
    rcases trace with _ | ⟨x, trace⟩
    · simp only [List.nil_append, List.cons.injEq, Exchange.mk.injEq, Call.cluster.injEq] at h
      exact h.1.1
    · simp at h
  cases run with
  | unread => exact .inl (alone hwhole)
  | gone => exact .inl (alone hwhole)
  | marked => exact .inl (alone hwhole)
  | refused stored now failure h => exact call_of_marking h hwhole (by simp)
  | written stored now h => exact call_of_marking h hwhole (by simp)

/-- Whatever is asked of the cluster while a notice is handled: a look at the volume, its deletion,
or a mark on it where the look has found none. -/
theorem call_of_volumeRun {settings : Settings} {event : VolumeEvent} {trace rest : Trace}
    {c : Cluster.Call} {answer : c.Answer} {outcome : Except Failure VolumeOutcome}
    (run : VolumeRun settings event (trace ++ onCluster c answer :: rest) outcome) :
    c = .deleteVolume event.volumeName ∨ c = .readVolume event.volumeName ∨ ∃ now : Timestamp,
      c = .annotateVolume event.volumeName Key.releasedAt (toString now.seconds) ∧
        Pending event trace := by
  have asked : onCluster c answer ∈ trace ++ onCluster c answer :: rest :=
    List.mem_append_right trace List.mem_cons_self
  generalize hwhole : trace ++ onCluster c answer :: rest = whole at run asked
  cases run with
  | foreign => cases asked
  | observed => cases asked
  | unserved => cases asked
  | marked => cases asked
  | removed => simp [removal] at asked
  | undeleted =>
    simp only [List.mem_singleton, Exchange.mk.injEq, Call.cluster.injEq] at asked
    exact .inl asked.1
  | destroyed =>
    simp only [removal, List.mem_cons, Exchange.mk.injEq, Call.cluster.injEq, reduceCtorEq,
      false_and, List.not_mem_nil, or_false] at asked
    exact .inl asked.1
  | retained _ _ _ _ run =>
    rw [← hwhole] at run
    exact .inr (call_of_markRun run)

theorem call_of_remains {settings : Settings} {event : VolumeEvent} {trace : Trace}
    {c : Cluster.Call}
    {next : c.Answer → Program Reconciler.interface (Except Failure VolumeOutcome)}
    (remains : Program.Remains (handleVolume settings event) trace
      (.ask (I := Reconciler.interface) (.cluster c) next)) :
    c = .deleteVolume event.volumeName ∨ c = .readVolume event.volumeName ∨ ∃ now : Timestamp,
      c = .annotateVolume event.volumeName Key.releasedAt (toString now.seconds) ∧
        Pending event trace :=
  -- Whatever the answers are from now on, the handling that is under way ends with some run.
  call_of_volumeRun (volumeRun_of_runs (remains.runs (Program.runs_from
    (Sample.answer {} (Simulation.Peers.numberedUuid 1)) _)))

/-! ## What a move does to the marks -/

/-- A stored volume keeps its mark or is deleted, and a known name that has no volume keeps none. -/
def Spared (before after : Store) (volumeName : String) : Prop :=
  after.volume? volumeName = none ∨
    before.volume? volumeName ≠ none ∧ after.mark? volumeName = before.mark? volumeName

theorem spared_refl (store : Store) (volumeName : String) : Spared store store volumeName := by
  by_cases h : store.volume? volumeName = none
  · exact .inl h
  · exact .inr ⟨h, rfl⟩

theorem spared_of_edited {moments : List Moment} {before after : Store} {volumeName : String}
    (edit : Edited moments before after) (known : Known moments volumeName) :
    Spared before after volumeName := by
  by_cases hbefore : before.volume? volumeName = none
  · exact .inl (edit.gone volumeName known hbefore)
  · by_cases hafter : after.volume? volumeName = none
    · exact .inl hafter
    · exact .inr ⟨hbefore, edit.marks volumeName hbefore hafter⟩

theorem spared_dropVolume (store : Store) (volumeName other : String) :
    Spared store (store.dropVolume volumeName) other := by
  by_cases h : volumeName = other
  · refine .inl ?_
    rw [Store.volume?_dropVolume, if_pos h]
  · have same : (store.dropVolume volumeName).volume? other = store.volume? other := by
      rw [Store.volume?_dropVolume, if_neg h]
    rcases spared_refl store other with gone | ⟨stored, -⟩
    · exact .inl (same.trans gone)
    · refine .inr ⟨stored, ?_⟩
      rw [Store.mark?, Store.mark?, same]

/-- A move writes no mark, or one mark on a volume that is stored without one. -/
inductive Change (past : List Moment) (m next : Moment) : Prop where
  | calm (log : next.marks = m.marks)
      (spared : ∀ volumeName, Known (m :: past) volumeName →
        Spared m.store next.store volumeName)
  | written (volumeName value : String) (log : next.marks = (volumeName, value) :: m.marks)
      (stored : m.store.volume? volumeName ≠ none) (unmarked : m.store.mark? volumeName = none)
      (mark : next.store.mark? volumeName = some value)
      (others : ∀ other, volumeName ≠ other →
        next.store.volume? other = m.store.volume? other)

/-- What is left to do for a notice: if the volume was found unmarked and is still to be marked, it
still is unmarked. -/
def Tracked (settings : Settings) (m : Moment) (past : List Moment) : Prop :=
  ∀ program, m.task = some program → ∃ event trace,
    Program.Remains (handleVolume settings event) trace program ∧
      (Pending event trace → Known (m :: past) event.volumeName ∧
        m.store.mark? event.volumeName = none)

theorem Known.later {moments : List Moment} {volumeName : String} (known : Known moments volumeName)
    (m : Moment) : Known (m :: moments) volumeName := by
  obtain ⟨earlier, hearlier, stored⟩ := known
  exact ⟨earlier, List.mem_cons_of_mem m hearlier, stored⟩

variable {settings : Settings} {m next : Moment} {past : List Moment}

theorem change_of_move (tracked : Tracked settings m past) (move : Move settings m past next) :
    Change past m next := by
  cases move with
  | edited store edit => exact .calm rfl fun volumeName known => spared_of_edited edit known
  | begun => exact .calm rfl fun volumeName _ => spared_refl m.store volumeName
  | failed => exact .calm rfl fun volumeName _ => spared_refl m.store volumeName
  | answered => exact .calm rfl fun volumeName _ => spared_refl m.store volumeName
  | ended => exact .calm rfl fun volumeName _ => spared_refl m.store volumeName
  | carriedOut c after waiting answer told =>
    obtain ⟨event, trace, remains, unmarked⟩ := tracked _ waiting
    obtain rfl | rfl | ⟨now, rfl, pending⟩ := call_of_remains remains
    · exact .calm rfl fun volumeName _ => spared_dropVolume m.store event.volumeName volumeName
    · exact .calm rfl fun volumeName _ => spared_refl m.store volumeName
    · by_cases stored : m.store.volume? event.volumeName = none
      · -- There is nothing to write the mark on.
        refine .calm ?_ fun volumeName _ => ?_
        · simp [written, stored]
        · change Spared m.store (m.store.annotate _ _ _) volumeName
          rw [Store.annotate_of_none stored]
          exact spared_refl m.store volumeName
      · refine .written event.volumeName (toString now.seconds) ?_ stored (unmarked pending).2
          (Store.mark?_annotate stored _)
          fun other hne => Store.volume?_annotate_of_ne hne _ _
        simp [written, Option.isSome_iff_ne_none.mpr stored]

theorem mark?_of_spared {before after : Store} {volumeName : String}
    (spared : Spared before after volumeName) (unmarked : before.mark? volumeName = none) :
    after.mark? volumeName = none := by
  rcases spared with gone | ⟨-, same⟩
  · exact Store.mark?_of_none gone
  · exact same.trans unmarked

theorem tracked_of_move (tracked : Tracked settings m past) (move : Move settings m past next) :
    Tracked settings next (m :: past) := by
  intro program hprogram
  cases move with
  | edited store edit =>
    obtain ⟨event, trace, remains, unmarked⟩ := tracked program hprogram
    refine ⟨event, trace, remains, fun pending => ?_⟩
    obtain ⟨known, hnone⟩ := unmarked pending
    exact ⟨known.later _, mark?_of_spared (spared_of_edited edit known) hnone⟩
  | begun event =>
    obtain rfl := Option.some.inj hprogram
    exact ⟨event, [], .start, fun pending => by cases pending⟩
  | carriedOut c after waiting answer told =>
    obtain rfl := Option.some.inj hprogram
    obtain ⟨event, trace, remains, unmarked⟩ := tracked _ waiting
    refine ⟨event, _, remains.answered answer, fun pending => ?_⟩
    -- The state begins with a look that was answered, and so with what the store holds.
    rcases pending_append pending with ⟨stored, heq, hnone⟩ | ⟨-, now, heq⟩
    · cases heq
      rcases told with hread | ⟨failure, hread⟩
      · have found : m.store.volume? event.volumeName = some stored :=
          (Except.ok.inj hread).symm
        refine ⟨⟨m, List.mem_cons_of_mem _ List.mem_cons_self, ?_⟩, ?_⟩
        · rw [found]
          exact Option.some_ne_none stored
        · change m.store.mark? event.volumeName = none
          rw [Store.mark?, found, Option.bind_some]
          exact Std.ExtTreeMap.getElem?_eq_none hnone
      · cases hread
    · cases heq
  | failed c after waiting failure =>
    obtain rfl := Option.some.inj hprogram
    obtain ⟨event, trace, remains, unmarked⟩ := tracked _ waiting
    refine ⟨event, _, remains.answered _, fun pending => ?_⟩
    rcases pending_append pending with ⟨stored, heq, -⟩ | ⟨-, now, heq⟩
    · cases heq
    · cases heq
  | answered c after waiting aside answer =>
    obtain rfl := Option.some.inj hprogram
    obtain ⟨event, trace, remains, unmarked⟩ := tracked _ waiting
    refine ⟨event, _, remains.answered answer, fun pending => ?_⟩
    rcases pending_append pending with ⟨stored, heq, -⟩ | ⟨before, -⟩
    · cases heq
      exact absurd rfl (aside _)
    · -- Between the look and the mark only the clock is asked, which leaves the store as it is.
      obtain ⟨known, hnone⟩ := unmarked before
      exact ⟨known.later _, hnone⟩
  | ended => cases hprogram

/-! ## Over a whole history -/

def Moment.writesTo (m : Moment) (volumeName : String) : List (String × String) :=
  m.marks.filter (·.1 = volumeName)

/-- A volume has a mark, unless it is gone. -/
def Settled (store : Store) (volumeName value : String) : Prop :=
  store.volume? volumeName = none ∨ store.mark? volumeName = some value

/-- A volume that has a mark is not written on, and keeps it. -/
theorem settled_of_change (change : Change past m next) {volumeName value : String}
    (known : Known (m :: past) volumeName) (settled : Settled m.store volumeName value) :
    Settled next.store volumeName value ∧ next.writesTo volumeName = m.writesTo volumeName := by
  cases change with
  | calm log spared =>
    refine ⟨?_, by rw [Moment.writesTo, log, Moment.writesTo]⟩
    rcases spared volumeName known with gone | ⟨stored, same⟩
    · exact .inl gone
    · rcases settled with gone | mark
      · exact absurd gone stored
      · exact .inr (same.trans mark)
  | written name other log stored unmarked mark others =>
    have hne : name ≠ volumeName := by
      rintro rfl
      rcases settled with gone | marked
      · exact stored gone
      · rw [unmarked] at marked
        cases marked
    constructor
    · rw [Settled, Store.mark?, others volumeName hne]
      exact settled
    · rw [Moment.writesTo, log, List.filter_cons_of_neg (by simpa using hne), Moment.writesTo]

structure Sound (m : Moment) (past : List Moment) : Prop where
  once : ∀ volumeName, (m.writesTo volumeName).length ≤ 1
  logged : ∀ entry ∈ m.marks, Known (m :: past) entry.1 ∧ Settled m.store entry.1 entry.2
  kept : ∀ earlier ∈ past, ∀ volumeName value, earlier.store.mark? volumeName = some value →
    Settled m.store volumeName value ∧ m.writesTo volumeName = earlier.writesTo volumeName

theorem known_of_mark {moments : List Moment} {earlier : Moment} (h : earlier ∈ moments)
    {volumeName value : String} (mark : earlier.store.mark? volumeName = some value) :
    Known moments volumeName := by
  refine ⟨earlier, h, fun gone => ?_⟩
  rw [Store.mark?_of_none gone] at mark
  cases mark

theorem writesTo_of_unmarked (sound : Sound m past) {volumeName : String}
    (stored : m.store.volume? volumeName ≠ none) (unmarked : m.store.mark? volumeName = none) :
    m.writesTo volumeName = [] := by
  refine List.filter_eq_nil_iff.mpr fun entry hentry hname => ?_
  obtain rfl : entry.1 = volumeName := by simpa using hname
  obtain ⟨-, gone | mark⟩ := sound.logged entry hentry
  · exact stored gone
  · rw [unmarked] at mark
    cases mark

theorem sound_of_change (sound : Sound m past) (change : Change past m next) :
    Sound next (m :: past) := by
  have lasting {earlier : Moment} (h : earlier ∈ m :: past) {volumeName value : String}
      (mark : earlier.store.mark? volumeName = some value) :
      Settled m.store volumeName value ∧ m.writesTo volumeName = earlier.writesTo volumeName := by
    rcases List.mem_cons.mp h with rfl | h
    · exact ⟨.inr mark, rfl⟩
    · exact sound.kept earlier h volumeName value mark
  have before (entry : String × String) (h : entry ∈ m.marks) :
      Known (next :: m :: past) entry.1 ∧ Settled next.store entry.1 entry.2 := by
    obtain ⟨known, settled⟩ := sound.logged entry h
    exact ⟨known.later next, (settled_of_change change known settled).1⟩
  refine ⟨fun volumeName => ?_, ?_, fun earlier h volumeName value mark => ?_⟩
  · cases change with
    | calm log =>
      rw [Moment.writesTo, log]
      exact sound.once volumeName
    | written name value log stored unmarked =>
      rw [Moment.writesTo, log]
      by_cases hname : name = volumeName
      · -- The volume had no mark, so none was written on it before.
        subst hname
        rw [List.filter_cons_of_pos (by simp)]
        have fresh := writesTo_of_unmarked sound stored unmarked
        rw [Moment.writesTo] at fresh
        rw [fresh]
        exact Nat.le_refl 1
      · rw [List.filter_cons_of_neg (by simpa using hname)]
        exact sound.once volumeName
  · intro entry hentry
    cases change with
    | calm log =>
      rw [log] at hentry
      exact before entry hentry
    | written name value log stored unmarked mark =>
      rw [log] at hentry
      rcases List.mem_cons.mp hentry with rfl | hentry
      · exact ⟨⟨m, List.mem_cons_of_mem next List.mem_cons_self, stored⟩, .inr mark⟩
      · exact before entry hentry
  · obtain ⟨settled, writes⟩ := lasting h mark
    obtain ⟨settled', writes'⟩ := settled_of_change change (known_of_mark h mark) settled
    exact ⟨settled', writes'.trans writes⟩

/-- Induction on the moves, with what is left to do for a notice as part of the invariant. -/
theorem sound_of_history (history : History settings m past) :
    Sound m past ∧ Tracked settings m past := by
  induction history with
  | start store =>
    refine ⟨⟨fun volumeName => Nat.zero_le 1, fun entry h => ?_, fun earlier h => ?_⟩,
      fun program h => ?_⟩
    · cases h
    · cases h
    · cases h
  | move before move ih =>
    obtain ⟨sound, tracked⟩ := ih
    exact ⟨sound_of_change sound (change_of_move tracked move), tracked_of_move tracked move⟩

/-- In every history each volume is marked once at most, and a mark that was there at some moment is
the mark of the volume from then on, as long as it is stored: nothing is written on it again. -/
theorem marked_once (settings : Settings) {m : Moment} {past : List Moment}
    (history : History settings m past) :
    (∀ volumeName, (m.writesTo volumeName).length ≤ 1) ∧
    (∀ entry ∈ m.marks, Settled m.store entry.1 entry.2) ∧
    ∀ earlier ∈ past, ∀ volumeName value, earlier.store.mark? volumeName = some value →
      Settled m.store volumeName value ∧ m.writesTo volumeName = earlier.writesTo volumeName := by
  obtain ⟨sound, -⟩ := sound_of_history history
  exact ⟨sound.once, fun entry h => (sound.logged entry h).2, sound.kept⟩

/-! ## Marking -/

/-- A volume that is stored without a mark is marked in the handling of a notice that calls for it,
even where the answer to the mark is lost. -/
theorem exists_mark (history : History settings m past) (idle : m.task = none)
    {event : VolumeEvent} (called : handleVolume settings event = markReleased event)
    {stored : Volume} (hstored : m.store.volume? event.volumeName = some stored)
    (h : Key.releasedAt ∉ stored.annotations) (now : Timestamp) (failure : Failure) :
    ∃ next past, History settings next past ∧ next.task = none ∧
      next.marks = (event.volumeName, toString now.seconds) :: m.marks ∧
      next.store.mark? event.volumeName = some (toString now.seconds) := by
  obtain ⟨looked, hlook, timed, htime, hmark⟩ := exists_ask_of_markReleased event h
  obtain ⟨marked, hmarked, -⟩ := hmark now
  have present : m.store.volume? event.volumeName ≠ none := by
    rw [hstored]
    exact Option.some_ne_none stored
  have asked := history.move (.begun event idle)
  have answered := asked.move (.carriedOut (.readVolume event.volumeName) looked
    (congrArg some (called.trans hlook)) _ (.inl (congrArg Except.ok hstored.symm)))
  have told := answered.move (.answered .clock timed (congrArg some htime) (by simp) now)
  have lost := told.move (.carriedOut (.annotateVolume event.volumeName Key.releasedAt _) marked
    (congrArg some hmarked) _ (.inr ⟨failure, rfl⟩))
  refine ⟨_, _, lost.move .ended, rfl, ?_, Store.mark?_annotate present _⟩
  change written m.store (.annotateVolume event.volumeName Key.releasedAt _) ++ m.marks = _
  simp [written, Option.isSome_iff_ne_none.mpr present]

/-- A notice of a released volume that is to be kept. -/
def Sample.notice : VolumeEvent :=
  { Reconciler.Sample.volume .released .modified with
    annotations := (Reconciler.Sample.volume .released .modified).annotations.insert
      Key.reclaimPolicy "Retain" }

def Sample.kept : Volume where
  metadata := {
    name := some Sample.notice.volumeName
    annotations := some Sample.notice.annotations }

theorem Sample.called :
    handleVolume Reconciler.Sample.settings Sample.notice = markReleased Sample.notice := by
  have releasing : Releasing Reconciler.Sample.settings Sample.notice
      Reconciler.Sample.shellProvider :=
    ⟨by decide +kernel, by decide, .inl rfl, by rfl⟩
  exact handleVolume_of_releasing releasing (by decide +kernel) (by decide +kernel)

/-- The volume is marked, the answer is lost, and the same notice comes again. -/
theorem sample_marked_once :
    ∃ m past, History Reconciler.Sample.settings m past ∧
      m.task = some (markReleased Sample.notice) ∧
      m.writesTo "pv-00000001" = [("pv-00000001", "1700000000")] ∧
      Settled m.store "pv-00000001" "1700000000" := by
  have stored : (Store.putVolume {} Sample.kept).volume? Sample.notice.volumeName =
      some Sample.kept := by rfl
  have unmarked : Key.releasedAt ∉ Sample.kept.annotations := by decide +kernel
  obtain ⟨next, past, history, idle, log, mark⟩ := exists_mark
    (.start (Store.putVolume {} Sample.kept)) rfl Sample.called stored unmarked
    Reconciler.Sample.now (.internal "answer lost")
  have again := history.move (.begun Sample.notice idle)
  obtain ⟨-, -, kept⟩ := marked_once Reconciler.Sample.settings again
  obtain ⟨settled, writes⟩ := kept next List.mem_cons_self _ _ mark
  refine ⟨_, _, again, congrArg some Sample.called, writes.trans ?_, settled⟩
  rw [Moment.writesTo, log]
  decide +kernel

end Release

end DatasetProvisioner
