import Counterpart.Proofs.Scan.Output

/-!
# What a scan does to the searcher

A scan starts the searcher with its first request.  When it ends, in whatever way, the searcher has ended too.  It has
tried to kill it unless it had learnt by then that the searcher had ended by itself, be it that it read the output to
the end and waited, or that the end was noticed while there was still output to be read.

* `step_next`: all that one request can do;
* `IsTended`: what a scan has done to the searcher so far, by how far it is; requests and closing keep it;
* `IsTended.reaped`: what it has done when it has ended.
-/

namespace Counterpart

namespace Ripgrep

/-- What a scan that has ended may have done to the searcher. -/
inductive Reaped (launch : Launch) : List Act → Prop
  /-- It was not started. -/
  | untouched : Reaped launch []
  /-- Its output was read to the end, and then it was waited for. -/
  | drained {output : Output} (hlaunch : launch = .runs output) (hends : output.EndsByItself) :
      Reaped launch [.start, .readEnd, .wait output.status]
  /-- It was killed before the end of its output, and nobody had noticed an end of its own. -/
  | killed {output : Output} (hlaunch : launch = .runs output) (hexit : output.exit ≠ .noticed) :
      Reaped launch [.start, .kill output.gone, .wait killedStatus]
  /-- It had ended by itself, and that was noticed before the end of its output. -/
  | noticed {output : Output} (hlaunch : launch = .runs output) (hexit : output.exit = .noticed) :
      Reaped launch [.start, .notice output.status]
  /-- Its output was read to the end, but it was killed as it went on running. -/
  | lingered {output : Output} (hlaunch : launch = .runs output) (hfinished : output.finished = true)
      (hexit : output.exit = .never) :
      Reaped launch [.start, .readEnd, .kill output.gone, .wait killedStatus]

namespace Scan

variable {scan : Scan}

/-! ## Steps -/

/-- The scan that goes on to read an output when a request comes: as it is if it has begun, and with the searcher
started if it has not. -/
inductive Begun (scan : Scan) : Output → Scan → Prop
  | reading {output : Output} {reads : List Read} {streamed : Bool} (h : scan.phase = .reading output reads streamed) :
      Begun scan output scan
  | started {output : Output} (h : scan.phase = .waiting) (hlaunch : scan.launch = .runs output) :
      Begun scan output scan.start

/-- The replies to a request, and what they leave behind. -/
inductive Step (scan : Scan) : Reply LineMatch → Scan → Prop
  | ended (h : scan.phase = .ended) : Step scan .finished scan
  | lingering (h : scan.phase = .lingering) : Step scan .blocked scan
  | refused {fault : Fault} (h : scan.phase = .waiting) (hlaunch : scan.launch = .refused fault) :
      Step scan (.failed (.launch fault)) scan.refuse
  | found {output : Output} {begun : Scan} (h : Begun scan output begun) (m : LineMatch) (rest : List Read) :
      Step scan (.value m) (begun.reading output rest true)
  | broken {output : Output} {begun : Scan} (h : Begun scan output begun) (e : ScanError) :
      Step scan (.failed e) begun.leave
  | drained {output : Output} {begun : Scan} (h : Begun scan output begun) (hends : output.EndsByItself)
      (reply : Reply LineMatch) (hreply : reply = .finished ∨ ∃ e, reply = .failed e) :
      Step scan reply (begun.finish output)
  | lingers {output : Output} {begun : Scan} (h : Begun scan output begun) (hfinished : output.finished = true)
      (hexit : output.exit = .never) : Step scan .blocked begun.linger
  | stuck {output : Output} {begun : Scan} (h : Begun scan output begun) (hfinished : output.finished = false)
      (streamed : Bool) : Step scan .blocked (begun.reading output [] streamed)

/-- All that can come of the end of the output. -/
lemma step_conclude {output : Output} {begun : Scan} (h : Begun scan output begun) (hfinished : output.finished = true)
    (streamed : Bool) (notes : Journal) :
    Step scan (begun.conclude output streamed notes).reply (begun.conclude output streamed notes).state := by
  unfold conclude
  by_cases hexit : output.exit = .never
  · rw [if_pos hexit]
    exact .lingers h hfinished hexit
  · rw [if_neg hexit]
    cases isNormalStatus output.status with
    | true => exact .drained h ⟨hfinished, hexit⟩ _ (.inl rfl)
    | false =>
      cases streamed with
      | true => exact .drained h ⟨hfinished, hexit⟩ _ (.inl rfl)
      | false => exact .drained h ⟨hfinished, hexit⟩ _ (.inr ⟨_, rfl⟩)

/-- All that can come of reading on. -/
lemma step_read {output : Output} {begun : Scan} (h : Begun scan output begun) (reads : List Read)
    (streamed : Bool) :
    Step scan (begun.read output reads streamed).reply (begun.read output reads streamed).state := by
  unfold read
  cases hpull : pull begun.nesting begun.root [] reads with
  | mk pulled notes =>
    cases pulled with
    | found m rest => exact .found h m rest
    | failed e => exact .broken h e
    | exhausted =>
      cases hfinished : output.finished with
      | false => exact .stuck h hfinished streamed
      | true => exact step_conclude h hfinished streamed notes

/-- All that a request can do. -/
theorem step_next (scan : Scan) : Step scan scan.next.reply scan.next.state := by
  unfold next
  cases hphase : scan.phase with
  | ended => exact .ended hphase
  | lingering => exact .lingering hphase
  | reading output reads streamed => exact step_read (.reading hphase) reads streamed
  | waiting =>
    cases hlaunch : scan.launch with
    | refused fault => exact .refused hphase hlaunch
    | runs output => exact step_read (.started hphase hlaunch) output.reads false

/-- A scan that is left has ended. -/
lemma phase_leave (scan : Scan) : scan.leave.phase = .ended := by
  unfold leave
  dsimp only
  split <;> rfl

/-- A scan that is closed has ended. -/
lemma phase_close (scan : Scan) : scan.close.phase = .ended := by
  unfold close
  cases hphase : scan.phase with
  | ended => exact hphase
  | lingering => exact phase_leave scan
  | reading output reads streamed => exact phase_leave scan
  | waiting => rfl

/-- A scan that has ended stays so, and does nothing more. -/
lemma next_of_ended (h : scan.phase = .ended) : scan.next = ⟨.finished, scan, []⟩ := by
  unfold next
  rw [h]

/-- A scan that says that it has ended, or that has failed, has ended. -/
lemma phase_next (h : scan.next.reply = .finished ∨ ∃ e, scan.next.reply = .failed e) :
    scan.next.state.phase = .ended := by
  have hstep := step_next scan
  cases hreply : scan.next.reply with
  | value m => simp [hreply] at h
  | blocked => simp [hreply] at h
  | finished =>
    rw [hreply] at hstep
    generalize scan.next.state = state at hstep
    cases hstep with
    | ended h => exact h
    | drained => exact phase_leave _
  | failed e =>
    rw [hreply] at hstep
    generalize scan.next.state = state at hstep
    cases hstep with
    | refused => rfl
    | broken => exact phase_leave _
    | drained => exact phase_leave _

/-! ## The searcher -/

/-- What a scan has done to the searcher so far: nothing before it begins, only the start while it reads. -/
def IsTended (scan : Scan) : Prop :=
  match scan.phase with
  | .waiting => scan.acts = []
  | .reading output _ _ => scan.launch = .runs output ∧ scan.acts = [.start]
  | .lingering => ∃ output : Output, scan.launch = .runs output ∧ output.finished = true ∧ output.exit = .never ∧
      scan.acts = [.start, .readEnd]
  | .ended => Reaped scan.launch scan.acts

lemma isTended_fresh (root : Path) (pattern : Text) (nesting : Nat) (launch : Launch) :
    (fresh root pattern nesting launch).IsTended := rfl

/-- A scan that waits for its first request has done nothing. -/
lemma IsTended.acts_waiting (h : scan.IsTended) (hphase : scan.phase = .waiting) : scan.acts = [] := by
  unfold IsTended at h
  rwa [hphase] at h

/-- What a scan that has ended has done. -/
lemma IsTended.reaped (h : scan.IsTended) (hphase : scan.phase = .ended) : Reaped scan.launch scan.acts := by
  unfold IsTended at h
  rwa [hphase] at h

/-- When a scan reads, it has started the searcher once. -/
lemma IsTended.begun (h : scan.IsTended) {output : Output} {begun : Scan} (hbegun : Begun scan output begun) :
    begun.launch = .runs output ∧ begun.acts = [.start] := by
  cases hbegun with
  | reading hphase =>
    unfold IsTended at h
    rwa [hphase] at h
  | started hphase hlaunch =>
    refine ⟨hlaunch, ?_⟩
    show scan.acts ++ [.start] = [.start]
    rw [h.acts_waiting hphase]
    rfl

/-- A scan that has ended before it began has done nothing. -/
lemma reaped_of_nil (h : scan.acts = []) : Reaped scan.launch scan.acts := by
  rw [h]
  exact .untouched

/-- Leaving a scan does not change what comes of the start of its searcher. -/
lemma launch_leave (scan : Scan) : scan.leave.launch = scan.launch := by
  unfold leave
  dsimp only
  split <;> rfl

lemma Begun.launch_eq {output : Output} {begun : Scan} (h : Begun scan output begun) : begun.launch = scan.launch := by
  cases h with
  | reading => rfl
  | started => rfl

/-- A request does not change what comes of the start of the searcher. -/
lemma launch_next (scan : Scan) : scan.next.state.launch = scan.launch := by
  have hstep := step_next scan
  generalize scan.next.state = state, scan.next.reply = reply at hstep
  cases hstep with
  | ended => rfl
  | lingering => rfl
  | refused => rfl
  | found hbegun => exact hbegun.launch_eq
  | broken hbegun => exact (launch_leave _).trans hbegun.launch_eq
  | drained hbegun => exact (launch_leave _).trans hbegun.launch_eq
  | lingers hbegun => exact hbegun.launch_eq
  | stuck hbegun => exact hbegun.launch_eq

lemma launch_nextAtOnce (scan : Scan) : scan.nextAtOnce.state.launch = scan.launch := by
  unfold nextAtOnce
  split
  · split
    · exact launch_next scan
    · rfl
  · exact launch_next scan

/-- Closing a scan does not change what comes of the start of its searcher. -/
lemma launch_close (scan : Scan) : scan.close.launch = scan.launch := by
  unfold Scan.close
  cases scan.phase with
  | ended => rfl
  | lingering => exact launch_leave scan
  | reading => exact launch_leave scan
  | waiting => rfl

/-- A searcher that has not been waited for is seen to when the scan is left. -/
lemma acts_leave (h : scan.acts = [.start] ∨ scan.acts = [.start, .readEnd]) :
    scan.leave.acts = scan.acts ++ lastActs scan.launch := by
  have hpending : ({ scan with phase := .ended } : Scan).isPending = true := by
    unfold isPending process
    rcases h with h | h
    · rw [h]
      rfl
    · rw [h]
      rfl
  unfold leave
  rw [if_pos hpending]
  rfl

/-- If it has only been started, it is killed unless its end was noticed. -/
lemma isTended_leave {output : Output} (hlaunch : scan.launch = .runs output) (hacts : scan.acts = [.start]) :
    scan.leave.IsTended := by
  have hleave := acts_leave (.inl hacts)
  rw [hacts, hlaunch] at hleave
  unfold IsTended
  rw [phase_leave, launch_leave, hleave]
  unfold lastActs
  dsimp only
  cases hexit : output.exit with
  | awaited => exact .killed hlaunch (by simp [hexit])
  | noticed => exact .noticed hlaunch hexit
  | never => exact .killed hlaunch (by simp [hexit])

/-- If it goes on running though its output has been read, it is killed. -/
lemma isTended_leave_lingering {output : Output} (hlaunch : scan.launch = .runs output)
    (hfinished : output.finished = true) (hexit : output.exit = .never) (hacts : scan.acts = [.start, .readEnd]) :
    scan.leave.IsTended := by
  have hleave := acts_leave (.inr hacts)
  rw [hacts, hlaunch] at hleave
  unfold IsTended
  rw [phase_leave, launch_leave, hleave]
  unfold lastActs
  dsimp only
  rw [hexit]
  exact .lingered hlaunch hfinished hexit

/-- A searcher that has been waited for is left alone. -/
lemma isTended_finish {output : Output} (hlaunch : scan.launch = .runs output) (hacts : scan.acts = [.start])
    (hends : output.EndsByItself) : (scan.finish output).IsTended := by
  have hall : (scan.act [.readEnd, .wait output.status]).acts = [.start, .readEnd, .wait output.status] := by
    unfold act
    rw [hacts]
    rfl
  have hpending : ¬ ({ scan.act [.readEnd, .wait output.status] with phase := .ended } : Scan).isPending = true := by
    unfold isPending process
    rw [hall]
    exact Bool.false_ne_true
  have hfinish : (scan.finish output).acts = [.start, .readEnd, .wait output.status] := by
    unfold finish leave
    rw [if_neg hpending]
    exact hall
  unfold IsTended
  rw [show (scan.finish output).phase = .ended from phase_leave _, hfinish,
    show (scan.finish output).launch = scan.launch from launch_leave _]
  exact .drained hlaunch hends

/-- To read on at the end of the output of a searcher that goes on running is due. -/
lemma isTended_linger {output : Output} (hlaunch : scan.launch = .runs output) (hacts : scan.acts = [.start])
    (hfinished : output.finished = true) (hexit : output.exit = .never) : scan.linger.IsTended := by
  refine ⟨output, hlaunch, hfinished, hexit, ?_⟩
  show scan.acts ++ [.readEnd] = _
  rw [hacts]
  rfl

/-- A request does to the searcher what is due. -/
theorem IsTended.next (h : scan.IsTended) : scan.next.state.IsTended := by
  have hstep := step_next scan
  generalize scan.next.state = state, scan.next.reply = reply at hstep
  cases hstep with
  | ended => exact h
  | lingering => exact h
  | refused hphase => exact reaped_of_nil (h.acts_waiting hphase)
  | found hbegun =>
    have hreading := h.begun hbegun
    exact hreading
  | broken hbegun =>
    obtain ⟨hlaunch, hacts⟩ := h.begun hbegun
    exact isTended_leave hlaunch hacts
  | drained hbegun hends =>
    obtain ⟨hlaunch, hacts⟩ := h.begun hbegun
    exact isTended_finish hlaunch hacts hends
  | lingers hbegun hfinished hexit =>
    obtain ⟨hlaunch, hacts⟩ := h.begun hbegun
    exact isTended_linger hlaunch hacts hfinished hexit
  | stuck hbegun =>
    have hreading := h.begun hbegun
    exact hreading

/-- A request that does not wait does to the searcher what is due. -/
theorem IsTended.nextAtOnce (h : scan.IsTended) : scan.nextAtOnce.state.IsTended := by
  unfold Scan.nextAtOnce
  split
  · next output hphase hlaunch =>
    split
    · exact h.next
    · -- the searcher has been started, and that is all
      have hbegun := h.begun (.started hphase hlaunch)
      exact hbegun
  · exact h.next

/-- Closing does to the searcher what is due. -/
theorem IsTended.close (h : scan.IsTended) : scan.close.IsTended := by
  unfold Scan.close
  cases hphase : scan.phase with
  | ended => exact h
  | lingering =>
    unfold IsTended at h
    rw [hphase] at h
    obtain ⟨output, hlaunch, hfinished, hexit, hacts⟩ := h
    exact isTended_leave_lingering hlaunch hfinished hexit hacts
  | reading output reads streamed =>
    obtain ⟨hlaunch, hacts⟩ := h.begun (.reading hphase)
    exact isTended_leave hlaunch hacts
  | waiting => exact reaped_of_nil (h.acts_waiting hphase)

/-- The searcher is started at most once. -/
lemma IsTended.count_start (h : scan.IsTended) : scan.acts.count .start ≤ 1 := by
  unfold IsTended at h
  cases hphase : scan.phase with
  | waiting =>
    rw [hphase] at h
    rw [h]
    decide
  | reading output reads streamed =>
    rw [hphase] at h
    rw [h.2]
    decide
  | lingering =>
    rw [hphase] at h
    obtain ⟨-, -, -, -, hacts⟩ := h
    rw [hacts]
    decide
  | ended =>
    rw [hphase] at h
    generalize scan.acts = acts at h
    cases h with
    | untouched => decide
    | drained => simp
    | killed => simp
    | noticed => simp
    | lingered => simp

/-- To close a scan that has not begun is not to begin. -/
lemma acts_close (h : scan.acts = []) : scan.close.acts = [] := by
  have hleave : scan.leave.acts = [] := by
    have hpending : ¬ ({ scan with phase := .ended } : Scan).isPending = true := by
      unfold isPending process
      rw [h]
      exact Bool.false_ne_true
    unfold leave
    rw [if_neg hpending]
    exact h
  unfold Scan.close
  cases scan.phase with
  | ended => exact h
  | lingering => exact hleave
  | reading output reads streamed => exact hleave
  | waiting => exact h

end Scan

end Ripgrep

end Counterpart
