import Counterpart.Scan.Event

/-!
# Scanning with the line searcher

The searcher is a program of its own that writes its events to standard output, one per line.  The scan starts
it with the first request, reads its lines, and sees to it that it has ended when the scan has: a scan that is
left while the searcher still runs, as far as anyone has noticed, kills it.

The output comes in piece by piece.  A line beyond a limit is skipped, but only what of it has come in when the reader
looks: what comes in later is read as if a line began there.
-/

namespace Counterpart

namespace Ripgrep

/-- When it is noticed that the searcher has ended. -/
inductive Exit
  /-- When its output has been read to the end and it is waited for. -/
  | awaited
  /-- While there is still output to be read. -/
  | noticed
  /-- Never: it goes on running, though it may have closed its output. -/
  | never
deriving Repr, DecidableEq

/-- What the searcher does once started: what it writes, the status it ends with, and whether it ends at all. -/
structure Output where
  /-- What it writes on standard output, as it comes in: with each look the reader has one piece more, which may be
  empty, and finally all of them. -/
  pieces : List Bytes := []
  stderr : Bytes := []
  status : Int := 0
  /-- Whether its output comes to an end. -/
  finished : Bool := true
  exit : Exit := .awaited
  /-- Whether it is gone when it is to be killed. -/
  gone : Bool := false
  /-- Whether it is there as soon as it is started, with all that it writes, so that nobody has to wait for that. -/
  atOnce : Bool := false
deriving Repr, DecidableEq

/-- All that the searcher writes on standard output. -/
def Output.stdout (output : Output) : Bytes := output.pieces.flatten

/-- What starting the searcher leads to. -/
inductive Launch
  | refused (fault : Fault)
  | runs (output : Output)
deriving Repr, DecidableEq

/-- What a scan does to the searcher. -/
inductive Act
  | start
  /-- Reads on at the end of the output. -/
  | readEnd
  /-- Finds that it has ended already, and learns its status. -/
  | notice (status : Int)
  /-- Tries to kill it.  If it is gone, the attempt fails, and that is no reason to fail oneself. -/
  | kill (gone : Bool)
  /-- Waits for it, and learns its status. -/
  | wait (status : Int)
deriving Repr, DecidableEq

/-- What has become of a started searcher: whether it was killed, and its status once that is known. -/
structure Process where
  killed : Bool
  status : Option Int
deriving Repr, DecidableEq

/-- What has become of the searcher, if there is one, after one act more. -/
def Process.after (process : Option Process) : Act → Option Process
  | .start => some ⟨false, none⟩
  | .readEnd => process
  | .kill _ => process.map fun p => { p with killed := true }
  | .notice status | .wait status => process.map fun p => { p with status := some status }

/-- The status of a searcher that was killed. -/
def killedStatus : Int := -9

/-- The command that starts the searcher. -/
def command (root : Path) (pattern : Text) : List Text :=
  ["rg".toList, "--json".toList, "--no-config".toList, "--no-ignore".toList, "--hidden".toList,
    "-e".toList, pattern, "--".toList, root.text]

/-! ## Reading lines -/

/-- The greatest length of a line that is read, not counting its line feed. -/
def lineLimit : Nat := 1048576

/-- Whether a line is too long to be read. -/
def isOversized (line : Bytes) : Bool :=
  lineLimit < line.length - (if Bytes.isTerminated line then 1 else 0)

/-- What the reader gets when it asks for a line. -/
inductive Read
  | line (bytes : Bytes)
  /-- A line beyond the limit; what has come in of it is gone. -/
  | oversized
deriving Repr, DecidableEq

/-- What the reader gets of a line that has come in. -/
def Read.ofLine (line : Bytes) : Read := if isOversized line then .oversized else .line line

/-- What the reader gets of the bytes that have come in, and what they leave.  Bytes without a line feed have to be
waited on, unless they are too many already. -/
def look? (buffer : Bytes) : Option (Read × Bytes) :=
  match buffer.dropWhile (· ≠ Bytes.lineFeed) with
  | feed :: rest => some (.ofLine (buffer.takeWhile (· ≠ Bytes.lineFeed) ++ [feed]), rest)
  | [] => if isOversized buffer then some (.oversized, []) else none

/-- What the reader gets of the bytes that have come in when no more of them will.  As long as the output has not come
to its end nobody knows whether an unterminated line is complete; only that it is too long may show. -/
def lastReads (finished : Bool) (buffer : Bytes) : List Read :=
  ((Bytes.lines buffer).filter fun line => finished || Bytes.isTerminated line || isOversized line).map .ofLine

/-- What the reader gets of the bytes that have come in and the pieces that still will, one with each look. -/
def readsAfter (finished : Bool) (buffer : Bytes) : List Bytes → List Read
  | [] => lastReads finished buffer
  | piece :: pieces =>
    match look? (buffer ++ piece) with
    | some (read, rest) => read :: readsAfter finished rest pieces
    | none => readsAfter finished (buffer ++ piece) pieces

/-- What the reader gets of an output. -/
def Output.reads (output : Output) : List Read := readsAfter output.finished [] output.pieces

/-! ## Statuses and notes -/

/-- What the searcher has to say about a status: what it wrote on standard error, or just the status. -/
def Output.complaint (output : Output) : Text :=
  let text := Text.strip (Text.Utf8.decodeLossy output.stderr)
  if text.isEmpty then "rg failed with exit code ".toList ++ Json.intText output.status else text

/-- Whether a status says that all went well: matches or none. -/
def isNormalStatus (status : Int) : Bool := status = 0 || status = 1

/-- The note about a line that was skipped. -/
def skipNote (root : Path) : Note := ⟨.debug, .scan, "skipping oversized rg event under " ++ root.shown⟩

/-- The note about a searcher that failed after it had found something. -/
def partialNote (root : Path) (output : Output) : Note :=
  ⟨.warning, .scan, "rg under " ++ root.shown ++ " exited with status " ++
    Text.toString (Json.intText output.status) ++ " after partial output: " ++
    Text.toString output.complaint⟩

/-! ## Scans -/

/-- What the reads up to the next match come to. -/
inductive Pulled
  | found (m : LineMatch) (rest : List Read)
  | failed (error : ScanError)
  | exhausted
deriving Repr

/-- Reads up to the next match; the notes are those of lines skipped on the way, last first. -/
def pull (nesting : Nat) (root : Path) (notes : Journal) : List Read → Pulled × Journal
  | [] => (.exhausted, notes.reverse)
  | .oversized :: rest => pull nesting root (skipNote root :: notes) rest
  | .line line :: rest =>
    match LineMatch.ofEventLine nesting root line with
    | .error e => (.failed e, notes.reverse)
    | .ok (some m) => (.found m rest, notes.reverse)
    | .ok none => pull nesting root notes rest

/-- How far a scan is. -/
inductive Phase
  | waiting
  /-- What is still to be read, and whether there was a match already. -/
  | reading (output : Output) (reads : List Read) (streamed : Bool)
  /-- All has been read, but the searcher goes on running. -/
  | lingering
  | ended
deriving Repr

/-- A scan with the searcher. -/
structure Scan where
  root : Path
  pattern : Text
  /-- How deep an event may be nested. -/
  nesting : Nat
  launch : Launch
  phase : Phase := .waiting
  /-- Whether it was tried to start the searcher. -/
  attempted : Bool := false
  /-- What was done to the searcher, first things first. -/
  acts : List Act := []
deriving Repr

namespace Scan

/-- What has become of the searcher. -/
def process (scan : Scan) : Option Process := scan.acts.foldl Process.after none

/-- The scan after some acts more. -/
def act (scan : Scan) (acts : List Act) : Scan := { scan with acts := scan.acts ++ acts }

/-- Whether the searcher was started and its status is not known. -/
def isPending (scan : Scan) : Bool := scan.process.any (·.status.isNone)

/-- What is done to a searcher whose status is not known.  If it has ended and that was noticed, the status is there
to be seen; otherwise it is killed and waited for. -/
def lastActs : Launch → List Act
  | .runs output =>
    match output.exit with
    | .noticed => [.notice output.status]
    | .awaited | .never => [.kill output.gone, .wait killedStatus]
  | .refused _ => []

/-- The scan when it is left, in whatever way: it is seen to it that the searcher has ended. -/
def leave (scan : Scan) : Scan :=
  let scan := { scan with phase := .ended }
  if scan.isPending then scan.act (lastActs scan.launch) else scan

/-- The scan at the end of the output, when the searcher has been waited for. -/
def finish (scan : Scan) (output : Output) : Scan := (scan.act [.readEnd, .wait output.status]).leave

/-- The scan at the end of the output of a searcher that goes on running. -/
def linger (scan : Scan) : Scan := { scan.act [.readEnd] with phase := .lingering }

/-- What comes of the scan at the end of the output. -/
def conclude (scan : Scan) (output : Output) (streamed : Bool) (notes : Journal) :
    Turn Scan LineMatch :=
  if output.exit = .never then ⟨.blocked, scan.linger, notes⟩
  else if isNormalStatus output.status then ⟨.finished, scan.finish output, notes⟩
  else if streamed then ⟨.finished, scan.finish output, notes ++ [partialNote scan.root output]⟩
  else ⟨.failed (.searcher output.complaint), scan.finish output, notes⟩

/-- The scan when the searcher could not be started. -/
def refuse (scan : Scan) : Scan := { scan with phase := .ended, attempted := true }

/-- The scan when the searcher has been started. -/
def start (scan : Scan) : Scan := { scan.act [.start] with attempted := true }

/-- The scan with something to be read. -/
def reading (scan : Scan) (output : Output) (reads : List Read) (streamed : Bool) : Scan :=
  { scan with phase := .reading output reads streamed }

/-- Reads on. -/
def read (scan : Scan) (output : Output) (reads : List Read) (streamed : Bool) :
    Turn Scan LineMatch :=
  match pull scan.nesting scan.root [] reads with
  | (.found m rest, notes) => ⟨.value m, scan.reading output rest true, notes⟩
  | (.failed e, notes) => ⟨.failed e, scan.leave, notes⟩
  | (.exhausted, notes) =>
    if output.finished then scan.conclude output streamed notes
    else ⟨.blocked, scan.reading output [] streamed, notes⟩

/-- The next match. -/
def next (scan : Scan) : Turn Scan LineMatch :=
  match scan.phase with
  | .ended => ⟨.finished, scan, []⟩
  | .lingering => ⟨.blocked, scan, []⟩
  | .reading output reads streamed => scan.read output reads streamed
  | .waiting =>
    match scan.launch with
    | .refused fault => ⟨.failed (.launch fault), scan.refuse, []⟩
    | .runs output => scan.start.read output output.reads false

/-- The next match for one who cannot wait.  If the searcher is not there as soon as it is started, it has been started
and that is all. -/
def nextAtOnce (scan : Scan) : Turn Scan LineMatch :=
  match scan.phase, scan.launch with
  | .waiting, .runs output =>
    if output.atOnce then scan.next else ⟨.blocked, scan.start.reading output output.reads false, []⟩
  | _, _ => scan.next

/-- The scan closed.  It sees to it that the searcher has ended, if it was started. -/
def close (scan : Scan) : Scan :=
  match scan.phase with
  | .ended => scan
  | .reading .. | .lingering => scan.leave
  | .waiting => { scan with phase := .ended }

/-- A bound on the matches still to come. -/
def left (scan : Scan) : Nat :=
  match scan.phase with
  | .ended | .lingering => 0
  | .reading _ reads _ => reads.length
  | .waiting =>
    match scan.launch with
    | .refused _ => 0
    | .runs output => output.reads.length

end Scan

theorem pull_found_length {nesting : Nat} {root : Path} {notes notes' : Journal} {reads rest : List Read}
    {m : LineMatch} (h : pull nesting root notes reads = (.found m rest, notes')) : rest.length < reads.length := by
  induction reads generalizing notes with
  | nil => simp [pull] at h
  | cons read reads ih =>
    cases read with
    | oversized => exact Nat.lt_succ_of_lt (ih h)
    | line line =>
      unfold pull at h
      split at h
      · simp at h
      · simp only [Prod.mk.injEq, Pulled.found.injEq] at h
        obtain ⟨⟨_, rfl⟩, _⟩ := h
        exact Nat.lt_succ_self _
      · exact Nat.lt_succ_of_lt (ih h)

namespace Scan

theorem left_read {scan : Scan} {output : Output} {reads : List Read} {streamed : Bool} {m : LineMatch}
    (h : (scan.read output reads streamed).reply = .value m) :
    (scan.read output reads streamed).state.left < reads.length := by
  unfold read at h ⊢
  cases hp : pull scan.nesting scan.root [] reads with
  | mk pulled notes =>
    cases pulled with
    | found m' rest => exact pull_found_length hp
    | failed e => simp [hp] at h
    | exhausted =>
      rw [hp] at h
      dsimp only at h
      unfold conclude at h
      repeat' split at h
      all_goals simp at h

/-- A match uses up one of those still to come. -/
theorem left_next {scan : Scan} {m : LineMatch} (h : scan.next.reply = .value m) :
    scan.next.state.left < scan.left := by
  cases hp : scan.phase with
  | ended => simp [next, hp] at h
  | lingering => simp [next, hp] at h
  | reading output reads streamed =>
    simp only [next, hp, left] at h ⊢
    exact left_read h
  | waiting =>
    cases hl : scan.launch with
    | refused fault => simp [next, hp, hl] at h
    | runs output =>
      have hleft : scan.left = output.reads.length := by simp [left, hp, hl]
      have hnext : scan.next = scan.start.read output output.reads false := by simp [next, hp, hl]
      rw [hleft, hnext]
      rw [hnext] at h
      exact left_read h

end Scan

end Ripgrep

end Counterpart
