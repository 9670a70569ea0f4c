import VulkanRemote.Client.Settlement
import VulkanRemote.Lib.Run

/-! The semaphore records over a run of the calls that signal and wait. A submit plans its waits against
the records the call found, an acquired image leaves no record, and neither does the host: each of the
three leaves a record that no longer says what was done last. -/

namespace VkRemote.Client
open Lib Metadata

/-- `log` is what was done to the semaphores, in submission order; the client does not keep it. -/
structure SemaphoreWorld where
  md : Metadata
  log : SemaphoreLog := []

/-- `QueueSubmit2` is a submit whose waits and signals all give a value. `waitSemaphores` is any completion
the host learns of, `refused` a call that takes serials and is not answered with `VK_SUCCESS`. -/
inductive SemaphoreCall
  | queueSubmit (t : ResourceTables) (queue : QueueId) (submits : List Submit) (fence : Option FenceId)
  | queueBindSparse (queue : QueueId) (infos : List BindInfo) (fence : Option FenceId)
  | signalSemaphore (s : SemaphoreId) (value : ℕ)
  | acquireNextImage (s : Option SemaphoreId)
  | waitSemaphores (s : SemaphoreId) (value : ℕ) (completed : Writes)
  | refused (serials : ℕ)

namespace SemaphoreCall

def events : SemaphoreCall → SemaphoreLog
  | queueSubmit _ _ submits _ => submits.flatMap Submit.events
  | queueBindSparse _ infos _ => infos.flatMap fun b => b.toSubmit.events
  | signalSemaphore s value => [(s, .hostSignal value)]
  | acquireNextImage s => s.toList.map fun s => (s, .acquire)
  | waitSemaphores .. => []
  | refused _ => []

def apply (md : Metadata) : SemaphoreCall → Metadata
  | queueSubmit t queue submits fence => md.queueSubmit t queue submits fence
  | queueBindSparse queue infos fence => md.queueBindSparse queue infos fence
  | signalSemaphore s value => md.signalSemaphore s value
  | acquireNextImage _ => md
  | waitSemaphores s value completed => md.noteTimeline s value completed
  | refused serials => { md with nextSubmissionSerial := md.nextSubmissionSerial + serials }

/-- The batches of the call see what the batches before them have left. -/
def inPlace : SemaphoreCall → Bool
  | queueSubmit .. => false
  | _ => true

end SemaphoreCall

namespace SemaphoreLog

/-- There is a signal, from a queue or an image acquire, that no wait has taken yet. -/
def offered (log : SemaphoreLog) (s : SemaphoreId) : Bool :=
  (last log s).any fun ev => ev.isSignal || decide (ev = .acquire)

/-- A wait that nothing was signaled for before. -/
def Unmatched (log : SemaphoreLog) (s : SemaphoreId) : Prop :=
  ∃ pre v post, log = pre ++ (s, .wait v) :: post ∧ offered pre s = false

/-- What the API requires of the next event: a binary semaphore is signaled and waited for in turn. -/
def fits (md : Metadata) (log : SemaphoreLog) (e : SemaphoreId × SemaphoreEvent) : Bool :=
  (md.semaphores e.1).isSome && match e.2 with
    | .wait v => if (md.shape e.1).timeline then v.isSome else offered log e.1
    | .signal v => if (md.shape e.1).timeline then v.isSome else !offered log e.1
    | .acquire => !(md.shape e.1).timeline && !offered log e.1
    | .hostSignal _ => (md.shape e.1).timeline

def fitsAll (md : Metadata) : SemaphoreLog → SemaphoreLog → Bool
  | _, [] => true
  | log, e :: es => fits md log e && fitsAll md (log ++ [e]) es

theorem fits_of_split {md : Metadata} {log es pre post : SemaphoreLog}
    {e : SemaphoreId × SemaphoreEvent} (h : fitsAll md log es = true) (heq : es = pre ++ e :: post) :
    fits md (log ++ pre) e = true := by
  subst heq
  induction pre generalizing log with
  | nil =>
    rw [List.append_nil]
    exact (Bool.and_eq_true_iff.1 h).1
  | cons a pre ih => simpa using ih (Bool.and_eq_true_iff.1 h).2

/-- The events of a batch that fits are on known semaphores, with values for timelines. -/
theorem named_of_fits {md : Metadata} {log es : SemaphoreLog} (h : fitsAll md log es = true)
    (hqueued : ∀ s ev, (s, ev) ∈ es → ∃ v, ev = .wait v ∨ ev = .signal v) : md.Named es where
  known s ev hev := by
    obtain ⟨pre, post, heq⟩ := List.append_of_mem hev
    exact (Bool.and_eq_true_iff.1 (fits_of_split h heq)).1
  valued s ht := by
    constructor <;> intro hev <;> obtain ⟨pre, post, heq⟩ := List.append_of_mem hev <;>
      simpa [fits, ht] using fits_of_split h heq
  queued := hqueued

theorem alternates_of_fits {md : Metadata} {log es : SemaphoreLog} (h : fitsAll md log es = true)
    (hqueued : ∀ s ev, (s, ev) ∈ es → ∃ v, ev = .wait v ∨ ev = .signal v) : md.Alternates es := by
  rintro pre s v post rfl hb ⟨v', hv'⟩
  have hfit := (Bool.and_eq_true_iff.1 (fits_of_split h rfl)).2
  simp only [hb, Bool.false_eq_true, if_false, offered, last_append] at hfit
  cases hl : last pre s with
  | none => exact absurd hv' (last_none_iff.1 hl _)
  | some ev =>
    obtain ⟨u, rfl | rfl⟩ := hqueued s ev (List.mem_append_left _ (mem_of_last hl))
    · simp [hl, SemaphoreEvent.isSignal] at hfit
    · exact ⟨u, rfl⟩

end SemaphoreLog

namespace SemaphoreWorld
open SemaphoreLog

variable {w w' : SemaphoreWorld} {c : SemaphoreCall}

/-- Created semaphores: each is a timeline or not. -/
def start (created : SemaphoreId → Option Bool) : SemaphoreWorld where
  md := { semaphores := fun s => (created s).map fun timeline => { timeline := timeline } }

def step (w : SemaphoreWorld) (c : SemaphoreCall) : Option SemaphoreWorld :=
  if fitsAll w.md w.log c.events then some { md := c.apply w.md, log := w.log ++ c.events } else none

/-- A signal of the timeline, submitted or performed by the host, with the value `v`. -/
def Reaches (log : SemaphoreLog) (s : SemaphoreId) (v : ℕ) : Prop :=
  (s, .signal (some v)) ∈ log ∨ (s, .hostSignal v) ∈ log

structure Mirrors (w : SemaphoreWorld) : Prop where
  recorded : ∀ s, (w.md.shape s).timeline = false →
    (w.md.signaled s = true ↔ ∃ v, last w.log s = some (.signal v))
  unmatched : ∀ s, (w.md.shape s).timeline = false → (w.md.shape s).pending ≠ [] → Unmatched w.log s
  unreached : ∀ s, (w.md.shape s).timeline = true → ∀ p ∈ (w.md.shape s).pending, ∀ v,
    Reaches w.log s v → v < p.value

/-- A binary semaphore the call waits for was signaled by a queue, unless the call signals it too; then
the signal is the last of the two, or the call is a sparse binding. A value the host has signaled up to is
waited for only where an acquired value or a submitted signal reaches it. -/
def Recorded (w : SemaphoreWorld) (c : SemaphoreCall) : Prop :=
  (∀ s, (w.md.shape s).timeline = false → Waits c.events s →
    (¬ Signals c.events s → ∃ v, last w.log s = some (.signal v)) ∧
    (Signals c.events s → c.inPlace = true ∨ ∃ v, last c.events s = some (.signal v))) ∧
  ∀ s, (w.md.shape s).timeline = true → ∀ v u, (s, .wait (some v)) ∈ c.events →
    (s, .hostSignal u) ∈ w.log → v ≤ u →
      v ≤ (w.md.shape s).acquiredValue ∨ ∃ u', v ≤ u' ∧ (s, .signal (some u')) ∈ w.log ++ c.events

/-- The records mirror a log the API allows, and know the timeline signals that were submitted. -/
structure Tracks (w : SemaphoreWorld) : Prop where
  mirrors : Mirrors w
  valid : ∀ pre e post, w.log = pre ++ e :: post → fits w.md pre e = true
  held : ∀ s, (w.md.shape s).timeline = true → ∀ v, (s, .signal (some v)) ∈ w.log →
    (w.md.shape s).acquiredValue < v → v ∈ (w.md.shape s).values
  logged : ∀ s, (w.md.shape s).timeline = true → ∀ v ∈ (w.md.shape s).values,
    (s, .signal (some v)) ∈ w.log

/-- In a log the API allows every binary wait has its signal before it. -/
theorem not_unmatched {md : Metadata} {log : SemaphoreLog}
    (hvalid : ∀ pre e post, log = pre ++ e :: post → fits md pre e = true) {s : SemaphoreId}
    (hb : (md.shape s).timeline = false) : ¬ Unmatched log s := by
  rintro ⟨pre, v, post, heq, hno⟩
  have hfit := hvalid pre _ post heq
  simp [fits, hb, hno] at hfit

theorem Tracks.pending_nil (h : Tracks w) {s : SemaphoreId} (hb : (w.md.shape s).timeline = false) :
    (w.md.shape s).pending = [] := by
  by_contra hne
  exact not_unmatched h.valid hb (h.mirrors.unmatched s hb hne)

theorem unreached_iff (h : Tracks w) {s : SemaphoreId} (ht : (w.md.shape s).timeline = true) (v : ℕ) :
    w.md.Unreached s v ↔ (w.md.shape s).acquiredValue < v ∧
      ∀ u, (s, .signal (some u)) ∈ w.log → u < v := by
  refine and_congr_right fun hlt => ⟨fun hall u hu => ?_, fun hall u hu => hall u (h.logged s ht u hu)⟩
  by_cases hle : (w.md.shape s).acquiredValue < u
  · exact hall u (h.held s ht u hu hle)
  · omega

/-- What fits stays so when more semaphores are known. -/
theorem fits_mono {md md' : Metadata} {log : SemaphoreLog} {e : SemaphoreId × SemaphoreEvent}
    (htl : ∀ s, (md'.shape s).timeline = (md.shape s).timeline)
    (hknown : ∀ s, (md.semaphores s).isSome → (md'.semaphores s).isSome)
    (h : fits md log e = true) : fits md' log e = true := by
  obtain ⟨hk, hev⟩ := Bool.and_eq_true_iff.1 h
  rw [fits, htl, hknown _ hk]
  exact hev

theorem valid_append {md md' : Metadata} {log es : SemaphoreLog}
    (hvalid : ∀ pre e post, log = pre ++ e :: post → fits md pre e = true)
    (hfit : fitsAll md log es = true)
    (htl : ∀ s, (md'.shape s).timeline = (md.shape s).timeline)
    (hknown : ∀ s, (md.semaphores s).isSome → (md'.semaphores s).isSome) :
    ∀ pre e post, log ++ es = pre ++ e :: post → fits md' pre e = true := by
  intro pre e post heq
  refine fits_mono htl hknown ?_
  rcases List.append_eq_append_iff.1 heq with ⟨mid, rfl, hes⟩ | ⟨mid, hlog, hmid⟩
  · exact fits_of_split hfit hes
  · cases mid with
    | nil =>
      rw [List.append_nil] at hlog
      subst hlog
      have hsplit := fits_of_split hfit (show _ = [] ++ _ from hmid.symm)
      rwa [List.append_nil] at hsplit
    | cons a mid =>
      obtain ⟨rfl, -⟩ := List.cons.inj hmid
      exact hvalid pre e mid hlog

/-- After a submit or a sparse binding the records mirror what was done exactly if `binary_signaled` does,
no binary wait was left pending and no timeline wait the host has signaled for. -/
theorem mirrors_settled_iff (h : Tracks w) {md' : Metadata} {es : SemaphoreLog}
    (hset : ∀ s, Metadata.Settled w.md md' es s) (hfit : fitsAll w.md w.log es = true)
    (hqueued : ∀ s ev, (s, ev) ∈ es → ∃ v, ev = .wait v ∨ ev = .signal v) :
    Mirrors { md := md', log := w.log ++ es } ↔
      (∀ s, (w.md.shape s).timeline = false →
        (md'.signaled s = true ↔ ∃ v, last (w.log ++ es) s = some (.signal v))) ∧
      (∀ s, (w.md.shape s).timeline = false → Waits es s → ¬ Signals es s → w.md.signaled s = true) ∧
      ∀ s, (w.md.shape s).timeline = true → ∀ v u, (s, .wait (some v)) ∈ es →
        (s, .hostSignal u) ∈ w.log → v ≤ u →
          v ≤ (w.md.shape s).acquiredValue ∨ ∃ u', v ≤ u' ∧ (s, .signal (some u')) ∈ w.log ++ es := by
  have hvalid := valid_append h.valid hfit (fun s => (hset s).timeline) fun s => (hset s).known
  constructor
  · intro hm
    refine ⟨fun s hb => hm.recorded s ((hset s).timeline.trans hb), fun s hb hw hno => ?_,
      fun s ht v u hv hu hvu => ?_⟩
    · by_contra hsig
      have hb' := (hset s).timeline.trans hb
      exact not_unmatched hvalid hb' (hm.unmatched s hb' (((hset s).unmatched hb (h.pending_nil hb)).2
        ⟨hw, hno, by simpa using hsig⟩))
    · by_contra hnot
      push Not at hnot
      obtain ⟨hlt, hnone⟩ := hnot
      have hun : w.md.Unreached s v := (unreached_iff h ht v).2 ⟨hlt, fun u' hu' =>
        lt_of_not_ge fun hle => hnone u' hle (List.mem_append_left _ hu')⟩
      obtain ⟨p, hp, rfl⟩ := ((hset s).outstanding ht v).2 ⟨.inr ⟨hv, hun⟩, fun u' hu' =>
        lt_of_not_ge fun hle => hnone u' hle (List.mem_append_right _ hu')⟩
      have hlt' := hm.unreached s ((hset s).timeline.trans ht) p hp u
        (.inr (List.mem_append_left _ hu))
      omega
  · rintro ⟨hrec, hbin, hhost⟩
    refine ⟨fun s hb => hrec s ((hset s).timeline.symm.trans hb), fun s hb hne => ?_,
      fun s ht p hp v hv => ?_⟩
    · have hb' := (hset s).timeline.symm.trans hb
      obtain ⟨hw, hno, hsig⟩ := ((hset s).unmatched hb' (h.pending_nil hb')).1 hne
      rw [hbin s hb' hw hno] at hsig
      cases hsig
    · have ht' := (hset s).timeline.symm.trans ht
      obtain ⟨hfrom, hout⟩ := ((hset s).outstanding ht' p.value).1 ⟨p, hp, rfl⟩
      have hnew : ∀ ev, (∀ v, ev ≠ .wait v ∧ ev ≠ .signal v) → (s, ev) ∈ w.log ++ es →
          (s, ev) ∈ w.log := by
        intro ev hev hmem
        rcases List.mem_append.1 hmem with hmem | hmem
        · exact hmem
        · obtain ⟨v, rfl | rfl⟩ := hqueued s ev hmem
          · exact absurd rfl (hev v).1
          · exact absurd rfl (hev v).2
      rcases hv with hv | hv
      · rcases List.mem_append.1 hv with hold | hcall
        · rcases hfrom with ⟨p', hp', hpv⟩ | ⟨-, hun⟩
          · exact hpv ▸ h.mirrors.unreached s ht' p' hp' v (.inl hold)
          · exact ((unreached_iff h ht' _).1 hun).2 v hold
        · exact hout v hcall
      · have hold := hnew _ (fun v => ⟨by simp, by simp⟩) hv
        rcases hfrom with ⟨p', hp', hpv⟩ | ⟨hw, hun⟩
        · exact hpv ▸ h.mirrors.unreached s ht' p' hp' v (.inr hold)
        · by_contra hge
          obtain ⟨hlt, hnone⟩ := (unreached_iff h ht' _).1 hun
          rcases hhost s ht' p.value v hw hold (by omega) with hle | ⟨u', hle, hu'⟩
          · omega
          · rcases List.mem_append.1 hu' with hu' | hu'
            · exact absurd (hnone u' hu') (by omega)
            · exact absurd (hout u' hu') (by omega)

theorem queued_queueSubmit {submits : List Submit} {s : SemaphoreId} {ev : SemaphoreEvent}
    (h : (s, ev) ∈ submits.flatMap Submit.events) : ∃ v, ev = .wait v ∨ ev = .signal v := by
  obtain ⟨b, -, hev⟩ := List.mem_flatMap.1 h
  rcases List.mem_append.1 hev with hev | hev <;> obtain ⟨x, -, hx⟩ := List.mem_map.1 hev <;> cases hx
  · exact ⟨_, .inl rfl⟩
  · exact ⟨_, .inr rfl⟩

theorem queued_queueBindSparse {infos : List BindInfo} {s : SemaphoreId} {ev : SemaphoreEvent}
    (h : (s, ev) ∈ infos.flatMap fun b => b.toSubmit.events) : ∃ v, ev = .wait v ∨ ev = .signal v := by
  have hev : (s, ev) ∈ (infos.map BindInfo.toSubmit).flatMap Submit.events := by rwa [List.flatMap_map]
  exact queued_queueSubmit hev

theorem step_eq (hs : w.step c = some w') :
    fitsAll w.md w.log c.events = true ∧ w' = { md := c.apply w.md, log := w.log ++ c.events } := by
  unfold step at hs
  split at hs
  · next hfit => exact ⟨hfit, (Option.some.inj hs).symm⟩
  · cases hs

/-- A planned submit records a binary semaphore it both waits for and signals as signaled. -/
theorem recorded_queueSubmit_iff (h : Tracks w) {t : ResourceTables} {queue : QueueId}
    {submits : List Submit} {fence : Option FenceId}
    (hn : w.md.Named (submits.flatMap Submit.events)) {s : SemaphoreId}
    (hb : (w.md.shape s).timeline = false) :
    ((w.md.queueSubmit t queue submits fence).signaled s = true ↔
      ∃ v, last (w.log ++ submits.flatMap Submit.events) s = some (.signal v)) ↔
    (Waits (submits.flatMap Submit.events) s → Signals (submits.flatMap Submit.events) s →
      ∃ v, last (submits.flatMap Submit.events) s = some (.signal v)) := by
  rw [signaled_queueSubmit hb hn, h.mirrors.recorded s hb, last_append]
  cases hl : last (submits.flatMap Submit.events) s with
  | none =>
    have hnever := last_none_iff.1 hl
    have hw : ¬ Waits (submits.flatMap Submit.events) s := fun ⟨v, hv⟩ => hnever _ hv
    have hsig : ¬ Signals (submits.flatMap Submit.events) s := fun ⟨v, hv⟩ => hnever _ hv
    simp [hw, hsig]
  | some ev =>
    have hmem := mem_of_last hl
    obtain ⟨v, rfl | rfl⟩ := queued_queueSubmit hmem
    · have hw : Waits (submits.flatMap Submit.events) s := ⟨v, hmem⟩
      simp [hw]
    · have hsig : Signals (submits.flatMap Submit.events) s := ⟨v, hmem⟩
      simp [hsig]

theorem recorded_inPlace (h : Tracks w) {md' : Metadata} {es : SemaphoreLog} {s : SemaphoreId}
    (hin : InPlace w.md md' es s) (hb : (w.md.shape s).timeline = false) :
    md'.signaled s = true ↔ ∃ v, last (w.log ++ es) s = some (.signal v) := by
  rw [hin.signaled hb, h.mirrors.recorded s hb, last_append]
  cases last es s <;> simp

/-- A call after which nothing is signaled that was not, nothing pends that did not, and nothing is said
of a queue. -/
theorem mirrors_quiet (h : Tracks w) {md' : Metadata} {es : SemaphoreLog}
    (htl : ∀ s, (md'.shape s).timeline = (w.md.shape s).timeline)
    (hsig : ∀ s, md'.signaled s = w.md.signaled s)
    (hpend : ∀ s, (md'.shape s).pending ⊆ (w.md.shape s).pending)
    (hlast : ∀ s, (w.md.shape s).timeline = false → ((∃ v, last (w.log ++ es) s = some (.signal v)) ↔
      ∃ v, last w.log s = some (.signal v)))
    (hout : ∀ s, (w.md.shape s).timeline = true → ∀ p ∈ (md'.shape s).pending, ∀ v,
      Reaches es s v → v < p.value) :
    Mirrors { md := md', log := w.log ++ es } where
  recorded s hb := by
    have hb' := (htl s).symm.trans hb
    simp only [hsig]
    rw [h.mirrors.recorded s hb', hlast s hb']
  unmatched s hb hne := by
    have hnil := h.pending_nil ((htl s).symm.trans hb)
    exact absurd (List.subset_nil.1 (hnil ▸ hpend s)) hne
  unreached s ht p hp v hv := by
    have ht' := (htl s).symm.trans ht
    have hsplit : Reaches w.log s v ∨ Reaches es s v := by
      rcases hv with hv | hv <;> rcases List.mem_append.1 hv with hv | hv
      · exact .inl (.inl hv)
      · exact .inr (.inl hv)
      · exact .inl (.inr hv)
      · exact .inr (.inr hv)
    rcases hsplit with hold | hnew
    · exact h.mirrors.unreached s ht' p (hpend s hp) v hold
    · exact hout s ht' p hp v hnew

theorem recorded_of_no_waits (hw : ∀ s v, (s, SemaphoreEvent.wait v) ∉ c.events) : Recorded w c :=
  ⟨fun s _ ⟨v, hv⟩ => absurd hv (hw s v), fun s _ v _ hv => absurd hv (hw s (some v))⟩

theorem signalSemaphore_shape (md : Metadata) (s : SemaphoreId) (value : ℕ) (s' : SemaphoreId) :
    (md.signalSemaphore s value).shape s' = if s' = s then
      { md.shape s with pending := (md.shape s).pending.filter fun p => !decide (p.value ≤ value) }
    else md.shape s' := by
  unfold signalSemaphore
  split
  · next hnone =>
    split
    · next hs =>
      subst hs
      simp [shape, hnone, SemaphoreProvenance.shape]
    · rfl
  · rw [shape_update]
    rfl

theorem signaled_signalSemaphore (md : Metadata) (s : SemaphoreId) (value : ℕ) (s' : SemaphoreId) :
    (md.signalSemaphore s value).signaled s' = md.signaled s' := by
  unfold signalSemaphore
  split
  · rfl
  · refine signaled_update_same (fun e => ?_) _ _ _
    rfl

theorem noteTimeline_shape (md : Metadata) (s : SemaphoreId) (value : ℕ) (completed : Writes)
    (s' : SemaphoreId) : ((md.noteTimeline s value completed).shape s').timeline = (md.shape s').timeline ∧
      ((md.noteTimeline s value completed).shape s').pending = (md.shape s').pending ∧
      ∀ v, (v ∈ ((md.noteTimeline s value completed).shape s').values → v ∈ (md.shape s').values) ∧
        ((md.noteTimeline s value completed).shape s').acquiredValue ≥ (md.shape s').acquiredValue ∧
        (v ∈ (md.shape s').values →
          ((md.noteTimeline s value completed).shape s').acquiredValue < v →
          v ∈ ((md.noteTimeline s value completed).shape s').values) := by
  unfold noteTimeline
  split
  · exact ⟨rfl, rfl, fun v => ⟨id, le_rfl, fun hv _ => hv⟩⟩
  · rw [shape_update]
    split
    · next hs =>
      subst hs
      refine ⟨rfl, rfl, fun v => ⟨fun hv => ?_, le_max_left _ _, fun hv hlt => ?_⟩⟩
      · obtain ⟨r, hr, rfl⟩ := List.mem_map.1 hv
        exact List.mem_map_of_mem (List.mem_filter.1 hr).1
      · obtain ⟨r, hr, rfl⟩ := List.mem_map.1 hv
        have hlt : value < r.value := (le_max_right _ _).trans_lt hlt
        exact List.mem_map_of_mem (List.mem_filter.2 ⟨hr, by simpa using hlt⟩)
    · exact ⟨rfl, rfl, fun v => ⟨id, le_rfl, fun hv _ => hv⟩⟩

theorem step_mirrors (h : Tracks w) (hs : w.step c = some w') : Mirrors w' ↔ Recorded w c := by
  obtain ⟨hfit, rfl⟩ := step_eq hs
  cases c with
  | queueSubmit t queue submits fence =>
    have hn := named_of_fits hfit fun s ev => queued_queueSubmit
    refine (mirrors_settled_iff h (settled_queueSubmit hn) hfit
      fun s ev => queued_queueSubmit).trans ?_
    constructor
    · rintro ⟨hrec, hbin, hhost⟩
      refine ⟨fun s hb hw => ⟨fun hno => (h.mirrors.recorded s hb).1 (hbin s hb hw hno),
        fun hsig => .inr ((recorded_queueSubmit_iff h hn hb).1 (hrec s hb) hw hsig)⟩, hhost⟩
    · rintro ⟨hbin, hhost⟩
      refine ⟨fun s hb => (recorded_queueSubmit_iff h hn hb).2 fun hw hsig =>
        ((hbin s hb hw).2 hsig).resolve_left (by simp [SemaphoreCall.inPlace]),
        fun s hb hw hno => (h.mirrors.recorded s hb).2 ((hbin s hb hw).1 hno), hhost⟩
  | queueBindSparse queue infos fence =>
    have hn := named_of_fits hfit fun s ev => queued_queueBindSparse
    have ha := alternates_of_fits hfit fun s ev => queued_queueBindSparse
    have hin := inPlace_queueBindSparse (q := queue) infos fence hn ha
    refine (mirrors_settled_iff h (fun s => (hin s).toSettled) hfit
      fun s ev => queued_queueBindSparse).trans ?_
    constructor
    · rintro ⟨-, hbin, hhost⟩
      exact ⟨fun s hb hw => ⟨fun hno => (h.mirrors.recorded s hb).1 (hbin s hb hw hno),
        fun _ => .inl rfl⟩, hhost⟩
    · rintro ⟨hbin, hhost⟩
      exact ⟨fun s hb => recorded_inPlace h (hin s) hb,
        fun s hb hw hno => (h.mirrors.recorded s hb).2 ((hbin s hb hw).1 hno), hhost⟩
  | signalSemaphore s value =>
    refine iff_of_true (mirrors_quiet h (fun s' => ?_) (signaled_signalSemaphore w.md s value)
      (fun s' => ?_) (fun s' hb => ?_) fun s' ht p hp v hv => ?_) (recorded_of_no_waits ?_)
    · simp only [SemaphoreCall.apply, signalSemaphore_shape]
      split
      · next hs => rw [hs]
      · rfl
    · simp only [SemaphoreCall.apply, signalSemaphore_shape]
      split
      · next hs =>
        subst hs
        exact List.filter_subset_self _
      · exact List.Subset.refl _
    · have hne : s ≠ s' := by
        rintro rfl
        simp [SemaphoreCall.events, fitsAll, fits, hb] at hfit
      rw [SemaphoreCall.events, last_concat_of_ne _ _ hne]
    · obtain ⟨rfl, rfl⟩ : s' = s ∧ v = value := by simpa [Reaches, SemaphoreCall.events] using hv
      rw [SemaphoreCall.apply, signalSemaphore_shape, if_pos rfl] at hp
      simpa using (List.mem_filter.1 hp).2
    · simp [SemaphoreCall.events]
  | acquireNextImage s =>
    refine iff_of_true (mirrors_quiet h (fun _ => rfl) (fun _ => rfl) (fun _ => List.Subset.refl _)
      (fun s' hb => ?_) fun s' ht p hp v hv => ?_) (recorded_of_no_waits ?_)
    · cases s with
      | none => simp [SemaphoreCall.events]
      | some s =>
        by_cases hne : s = s'
        · subst hne
          have hno : offered w.log s = false := by
            simpa [SemaphoreCall.events, fitsAll, fits, hb] using
              (Bool.and_eq_true_iff.1 (Bool.and_eq_true_iff.1 hfit).1).2
          have hold : ¬ ∃ v, last w.log s = some (.signal v) := by
            rintro ⟨v, hv⟩
            simp [offered, hv, SemaphoreEvent.isSignal] at hno
          simp only [SemaphoreCall.events, Option.toList_some, List.map_cons, List.map_nil,
            last_concat_self, hold, iff_false]
          simp
        · simp only [SemaphoreCall.events, Option.toList_some, List.map_cons, List.map_nil]
          rw [last_concat_of_ne _ _ hne]
    · simp [Reaches, SemaphoreCall.events] at hv
    · simp [SemaphoreCall.events]
  | waitSemaphores s value completed =>
    refine iff_of_true (mirrors_quiet h (fun s' => (noteTimeline_shape w.md s value completed s').1)
      (fun s' => ?_) (fun s' => ?_) (fun s' hb => ?_) fun s' ht p hp v hv => ?_)
      (recorded_of_no_waits ?_)
    · simp only [SemaphoreCall.apply, noteTimeline]
      split
      · rfl
      · refine signaled_update_same (fun e => ?_) _ _ _
        rfl
    · rw [SemaphoreCall.apply, (noteTimeline_shape w.md s value completed s').2.1]
      exact List.Subset.refl _
    · simp [SemaphoreCall.events]
    · simp [Reaches, SemaphoreCall.events] at hv
    · simp [SemaphoreCall.events]
  | refused serials =>
    refine iff_of_true (mirrors_quiet h (fun _ => rfl) (fun _ => rfl) (fun _ => List.Subset.refl _)
      (fun s' hb => ?_) fun s' ht p hp v hv => ?_) (recorded_of_no_waits ?_)
    · simp [SemaphoreCall.events]
    · simp [Reaches, SemaphoreCall.events] at hv
    · simp [SemaphoreCall.events]

theorem tracks_start (created : SemaphoreId → Option Bool) : Tracks (start created) := by
  have hentry : ∀ s, (start created).md.shape s = ⟨(created s).getD false, [], 0, []⟩ ∧
      (start created).md.signaled s = false := by
    intro s
    simp only [start, shape, signaled]
    cases created s <;> exact ⟨rfl, rfl⟩
  refine ⟨⟨fun s _ => ?_, fun s _ hne => ?_, fun s _ p hp => ?_⟩, fun pre e post heq => ?_,
    fun s _ v hv => ?_, fun s _ v hv => ?_⟩
  · rw [(hentry s).2]
    simp [start, last]
  · rw [(hentry s).1] at hne
    exact absurd rfl hne
  · rw [(hentry s).1] at hp
    cases hp
  · simp [start] at heq
  · cases hv
  · rw [(hentry s).1] at hv
    cases hv

theorem tracks_settled (h : Tracks w) {md' : Metadata} {es : SemaphoreLog}
    (hset : ∀ s, Metadata.Settled w.md md' es s) (hfit : fitsAll w.md w.log es = true)
    (hm : Mirrors { md := md', log := w.log ++ es }) : Tracks { md := md', log := w.log ++ es } where
  mirrors := hm
  valid := valid_append h.valid hfit (fun s => (hset s).timeline) fun s => (hset s).known
  held s ht v hv hlt := by
    have ht' := (hset s).timeline.symm.trans ht
    rw [(hset s).acquiredValue] at hlt
    exact ((hset s).values ht' v).2
      ((List.mem_append.1 hv).imp_left fun hold => h.held s ht' v hold hlt)
  logged s ht v hv := by
    have ht' := (hset s).timeline.symm.trans ht
    exact List.mem_append.2 ((((hset s).values ht' v).1 hv).imp_left (h.logged s ht' v))

/-- A call that submits no signal and drops no value but acquired ones. -/
theorem tracks_quiet (h : Tracks w) {md' : Metadata} {es : SemaphoreLog}
    (htl : ∀ s, (md'.shape s).timeline = (w.md.shape s).timeline)
    (hknown : ∀ s, (w.md.semaphores s).isSome → (md'.semaphores s).isSome)
    (hvalues : ∀ s v, (v ∈ (md'.shape s).values → v ∈ (w.md.shape s).values) ∧
      (md'.shape s).acquiredValue ≥ (w.md.shape s).acquiredValue ∧
      (v ∈ (w.md.shape s).values → (md'.shape s).acquiredValue < v → v ∈ (md'.shape s).values))
    (hno : ∀ s v, (s, SemaphoreEvent.signal v) ∉ es) (hfit : fitsAll w.md w.log es = true)
    (hm : Mirrors { md := md', log := w.log ++ es }) : Tracks { md := md', log := w.log ++ es } where
  mirrors := hm
  valid := valid_append h.valid hfit htl hknown
  held s ht v hv hlt := by
    obtain ⟨-, hge, hkeep⟩ := hvalues s v
    have hold := (List.mem_append.1 hv).resolve_right (hno s _)
    exact hkeep (h.held s ((htl s).symm.trans ht) v hold (hge.trans_lt hlt)) hlt
  logged s ht v hv :=
    List.mem_append_left _ (h.logged s ((htl s).symm.trans ht) v ((hvalues s v).1 hv))

theorem tracks_step (h : Tracks w) (hs : w.step c = some w') (hm : Mirrors w') : Tracks w' := by
  obtain ⟨hfit, rfl⟩ := step_eq hs
  have hsame : ∀ (md : Metadata) (s : SemaphoreId) (v : ℕ), (v ∈ (md.shape s).values →
      v ∈ (md.shape s).values) ∧ (md.shape s).acquiredValue ≥ (md.shape s).acquiredValue ∧
      (v ∈ (md.shape s).values → (md.shape s).acquiredValue < v → v ∈ (md.shape s).values) :=
    fun _ _ _ => ⟨id, le_rfl, fun hv _ => hv⟩
  cases c with
  | queueSubmit t queue submits fence =>
    exact tracks_settled h (settled_queueSubmit (named_of_fits hfit fun s ev => queued_queueSubmit)) hfit hm
  | queueBindSparse queue infos fence =>
    have hin := inPlace_queueBindSparse (q := queue) infos fence
      (named_of_fits hfit fun s ev => queued_queueBindSparse)
      (alternates_of_fits hfit fun s ev => queued_queueBindSparse)
    exact tracks_settled h (fun s => (hin s).toSettled) hfit hm
  | signalSemaphore s value =>
    have hshape := signalSemaphore_shape w.md s value
    refine tracks_quiet h (fun s' => ?_) (fun s' hk => ?_) (fun s' v => ?_)
      (by simp [SemaphoreCall.events]) hfit hm
    · rw [SemaphoreCall.apply, hshape]
      split
      · next heq => rw [heq]
      · rfl
    · rw [SemaphoreCall.apply, signalSemaphore]
      split
      · exact hk
      · exact known_update _ _ _ _ hk
    · rw [SemaphoreCall.apply, hshape]
      split
      · next heq => exact heq ▸ hsame w.md s' v
      · exact hsame w.md s' v
  | acquireNextImage s =>
    refine tracks_quiet h (fun _ => rfl) (fun _ => id) (hsame w.md) ?_ hfit hm
    simp [SemaphoreCall.events]
  | waitSemaphores s value completed =>
    refine tracks_quiet h (fun s' => (noteTimeline_shape w.md s value completed s').1) (fun s' hk => ?_)
      (fun s' => (noteTimeline_shape w.md s value completed s').2.2) (by simp [SemaphoreCall.events])
      hfit hm
    rw [SemaphoreCall.apply, noteTimeline]
    split
    · exact hk
    · exact known_update _ _ _ _ hk
  | refused serials =>
    refine tracks_quiet h (fun _ => rfl) (fun _ => id) (hsame w.md) ?_ hfit hm
    simp [SemaphoreCall.events]

theorem run_mirrored {created : SemaphoreId → Option Bool} {cs : List SemaphoreCall}
    {w : SemaphoreWorld} (h : Run step (start created) cs w) :
    (∀ cs' w', cs' <+: cs → Run step (start created) cs' w' → Mirrors w') ↔
      RunWhere step Recorded (start created) cs w := by
  have htracks : ∀ {cs w}, RunWhere step Recorded (start created) cs w → Tracks w :=
    fun hr => hr.invariant (tracks_start created) fun w₁ c w₂ ht hc hs =>
      tracks_step ht hs ((step_mirrors ht hs).2 hc)
  constructor
  · intro hall
    induction h with
    | nil => exact .nil
    | @snoc cs w₁ w₂ c hrun hs ih =>
      have hbefore := ih fun cs' w' hpre => hall cs' w' (hpre.trans (List.prefix_append _ _))
      exact hbefore.snoc ((step_mirrors (htracks hbefore) hs).1
        (hall _ w₂ (List.prefix_refl _) (hrun.snoc hs))) hs
  · intro hwhere cs' w' hpre hrun
    exact (htracks (hwhere.of_prefix hpre hrun)).mirrors

/-- Semaphore 5 is binary, semaphore 6 a timeline. -/
def oneOfEach : SemaphoreWorld := start fun s => if s = 5 then some false else if s = 6 then some true else none

def submitOn (queue : QueueId) (submits : List Submit) : SemaphoreCall :=
  .queueSubmit {} queue submits none

/-- One queue signals both, another waits for both. -/
def handedOver : List SemaphoreCall :=
  [submitOn 1 [{ signals := [⟨5, none⟩, ⟨6, some 3⟩] }],
   submitOn 2 [{ waits := [{ semaphore := 5, value := none }, { semaphore := 6, value := some 2 }] }]]

theorem run_mirrored_handedOver : ∃ w, runList step oneOfEach handedOver = some w ∧ Mirrors w := by
  have hsome : (runList step oneOfEach handedOver).isSome = true := by decide
  obtain ⟨w, hw⟩ := Option.isSome_iff_exists.1 hsome
  have hrun : Run step (start _) handedOver w := run_of_runList hw
  refine ⟨w, hw, (run_mirrored hrun).2 (runWhere_of_runList hw fun k c w' hk hw' => ?_) _ _
    (List.prefix_refl _) hrun⟩
  rcases k with - | - | k
  · obtain rfl := Option.some.inj hk
    refine recorded_of_no_waits fun s v => ?_
    simp [submitOn, SemaphoreCall.events, Submit.events, Submit.waitEvents, Submit.signalEvents]
  · obtain rfl := Option.some.inj hk
    obtain rfl := Option.some.inj hw'
    refine ⟨fun s hb hwaits => ?_, fun s ht v u hv hu => ?_⟩
    · obtain ⟨v, hv⟩ := hwaits
      obtain ⟨rfl, -⟩ | ⟨rfl, -⟩ : s = 5 ∧ v = none ∨ s = 6 ∧ v = some 2 := by
        simpa [submitOn, SemaphoreCall.events, Submit.events, Submit.waitEvents, Submit.signalEvents]
          using hv
      · refine ⟨fun _ => ⟨none, rfl⟩, ?_⟩
        rintro ⟨u, hu⟩
        simp [submitOn, SemaphoreCall.events, Submit.events, Submit.waitEvents, Submit.signalEvents] at hu
      · cases hb
    · simp [start, submitOn, SemaphoreCall.events, Submit.events, Submit.waitEvents,
        Submit.signalEvents] at hu
  · cases hk

/-- A wait later in the call leaves its semaphore recorded as signaled; a wait for an acquired image and a
wait for a value the host has signaled stay pending. -/
theorem records_go_stale :
    (∃ w, Run step oneOfEach
        [submitOn 1 [{ signals := [⟨5, none⟩] }, { waits := [{ semaphore := 5, value := none }] }]] w ∧
      last w.log 5 = some (.wait none) ∧ w.md.signaled 5 = true) ∧
    (∃ w, Run step oneOfEach
        [.acquireNextImage (some 5), submitOn 1 [{ waits := [{ semaphore := 5, value := none }] }]] w ∧
      (w.md.shape 5).pending ≠ [] ∧ w.log = [(5, .acquire), (5, .wait none)]) ∧
    ∃ w, Run step oneOfEach
        [.signalSemaphore 6 5, submitOn 1 [{ waits := [{ semaphore := 6, value := some 3 }] }]] w ∧
      (w.md.shape 6).pending.map PendingSemaphoreWait.value = [3] ∧ Reaches w.log 6 5 :=
  ⟨⟨_, run_of_runList rfl, rfl, rfl⟩, ⟨_, run_of_runList rfl, List.cons_ne_nil _ _, rfl⟩,
    ⟨_, run_of_runList rfl, rfl, .inr (List.mem_cons_self ..)⟩⟩

end SemaphoreWorld
end VkRemote.Client
