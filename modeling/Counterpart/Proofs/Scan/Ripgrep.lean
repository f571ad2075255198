import Counterpart.Proofs.Scan.Drain
import Mathlib.Data.List.TakeWhile

/-!
# What the line searcher's output leads to

* `ofEventLine_eq_error_iff`: the only lines that a scan cannot make sense of are events in which something else stands
  where the path belongs, and what is nested too deep to be read;
* `breakOff_iff`: when such a line breaks a search off;
* `isDrained_drain`: a scan hands out the matches of what it reads, up to the first line that breaks it off, and ends
  as that line or the status says;
* `isDrained_fresh` and `drain_refused`: the same for a scan that has not begun.
-/

namespace Counterpart

/-! ## Events -/

namespace LineMatch

/-- A line of output breaks a scan off: it is an event of type `match` with the text of a line in it, but with something
of another kind where the text of its path belongs; or it is nested too deep to be read, whatever it would be. -/
inductive IsUnreadable (nesting : Nat) (line : Bytes) : ScanError → Prop
  | illTyped {event data : Json} {text : Text} (hread : Json.ofBytes nesting line = .ok event)
      (hdata : eventData? event = some data) (htext : textOf data "lines".toList = .string text)
      (hsome : (textOf data "path".toList).isSomething = true) (hpath : ∀ t, textOf data "path".toList ≠ .string t) :
      IsUnreadable nesting line (.eventPath (textOf data "path".toList).kindName)
  | tooDeep {container : Json.Container} (hread : Json.ofBytes nesting line = .error (.tooDeep container)) :
      IsUnreadable nesting line (.eventTooDeep container)

/-- The data of an event tell of a match when they have a text for the line and something for the path. -/
lemma ofEventData_eq (root : Path) (data : Json) :
    ofEventData root data =
      if (textOf data "path".toList).isSomething then
        match textOf data "lines".toList with
        | .string text =>
          match textOf data "path".toList with
          | .string p => .ok (some ⟨root.join (Path.ofText p), text⟩)
          | other => .error (.eventPath other.kindName)
        | _ => .ok none
      else .ok none := by
  show (if !(textOf data "path".toList).isSomething then _ else _) = _
  cases (textOf data "path".toList).isSomething <;> rfl

/-- Data cannot be made sense of exactly if there is a line and something for the path that is no text. -/
lemma ofEventData_eq_error_iff {root : Path} {data : Json} {e : ScanError} :
    ofEventData root data = .error e ↔
      e = .eventPath (textOf data "path".toList).kindName ∧
        (∃ text, textOf data "lines".toList = .string text) ∧
        (textOf data "path".toList).isSomething = true ∧ ∀ t, textOf data "path".toList ≠ .string t := by
  rw [ofEventData_eq]
  generalize textOf data "path".toList = path
  generalize textOf data "lines".toList = lines
  by_cases hsome : path.isSomething = true
  · rw [if_pos hsome]
    cases lines with
    | string text => cases path <;> simp [hsome, eq_comm]
    | _ => simp
  · rw [if_neg hsome]
    simp [hsome]

/-- An event cannot be made sense of exactly if its data cannot. -/
lemma ofEvent_eq_error_iff {root : Path} {event : Json} {e : ScanError} :
    ofEvent root event = .error e ↔ ∃ data, eventData? event = some data ∧ ofEventData root data = .error e := by
  unfold ofEvent
  cases eventData? event <;> simp

/-- A line breaks a scan off exactly if it is one of these. -/
lemma ofEventLine_eq_error_iff {nesting : Nat} {root : Path} {line : Bytes} {e : ScanError} :
    ofEventLine nesting root line = .error e ↔ IsUnreadable nesting line e := by
  unfold ofEventLine
  constructor
  · intro h
    cases hread : Json.ofBytes nesting line with
    | ok event =>
      rw [hread] at h
      obtain ⟨data, hdata, hevent⟩ := ofEvent_eq_error_iff.1 h
      obtain ⟨rfl, ⟨text, htext⟩, hsome, hpath⟩ := ofEventData_eq_error_iff.1 hevent
      exact .illTyped hread hdata htext hsome hpath
    | error e' =>
      cases e' with
      | malformed => simp [hread] at h
      | tooDeep container =>
        rw [hread] at h
        obtain rfl := Except.error.inj h
        exact .tooDeep hread
  · intro h
    cases h with
    | illTyped hread hdata htext hsome hpath =>
      rw [hread]
      exact ofEvent_eq_error_iff.2 ⟨_, hdata, ofEventData_eq_error_iff.2 ⟨rfl, ⟨_, htext⟩, hsome, hpath⟩⟩
    | tooDeep hread => rw [hread]

end LineMatch

namespace Ripgrep

/-! ## What is read -/

/-- What a read says about a match; a line that is too long says nothing. -/
def Read.tells (nesting : Nat) (root : Path) : Read → Except ScanError (Option LineMatch)
  | .line bytes => LineMatch.ofEventLine nesting root bytes
  | .oversized => .ok none

/-- The match that a read tells of. -/
def Read.match? (nesting : Nat) (root : Path) (read : Read) : Option LineMatch :=
  (read.tells nesting root).toOption.join

/-- Why a read breaks a scan off. -/
def Read.error? (nesting : Nat) (root : Path) (read : Read) : Option ScanError :=
  match read.tells nesting root with
  | .ok _ => none
  | .error e => some e

/-- The matches that some reads tell of, up to the first one that breaks the scan off. -/
def matchesOf (nesting : Nat) (root : Path) (reads : List Read) : List LineMatch :=
  (reads.takeWhile fun read => (read.error? nesting root).isNone).filterMap (Read.match? nesting root)

/-- Why the first read that breaks the scan off does so. -/
def errorOf (nesting : Nat) (root : Path) (reads : List Read) : Option ScanError :=
  reads.findSome? (Read.error? nesting root)

variable {nesting : Nat} {root : Path} {read : Read} {rest : List Read} {m : LineMatch} {e : ScanError}

/-- The error of what is read is the one that it tells of. -/
lemma error?_eq_some_iff : read.error? nesting root = some e ↔ read.tells nesting root = .error e := by
  unfold Read.error?
  cases read.tells nesting root <;> simp

/-- Only a line can tell of an error, and only one that is unreadable. -/
lemma tells_eq_error_iff :
    read.tells nesting root = .error e ↔ ∃ line, read = .line line ∧ LineMatch.IsUnreadable nesting line e := by
  cases read with
  | line line =>
    show LineMatch.ofEventLine nesting root line = .error e ↔ _
    rw [LineMatch.ofEventLine_eq_error_iff]
    simp
  | oversized => simp [Read.tells]

/-- From an error on nothing is found. -/
lemma matchesOf_cons_of_error (h : read.tells nesting root = .error e) :
    matchesOf nesting root (read :: rest) = [] := by
  unfold matchesOf
  rw [List.takeWhile_cons_of_neg (by simp [Read.error?, h])]
  rfl

/-- What is read without an error adds its match if it tells of one. -/
lemma matchesOf_cons_of_ok {found : Option LineMatch} (h : read.tells nesting root = .ok found) :
    matchesOf nesting root (read :: rest) = found.toList ++ matchesOf nesting root rest := by
  unfold matchesOf
  rw [List.takeWhile_cons_of_pos (by simp [Read.error?, h]), List.filterMap_cons]
  have hmatch : read.match? nesting root = found := by
    unfold Read.match?
    rw [h]
    rfl
  rw [hmatch]
  cases found <;> rfl

lemma errorOf_cons_of_error (h : read.tells nesting root = .error e) :
    errorOf nesting root (read :: rest) = some e :=
  List.findSome?_cons_of_isSome (by simp [Read.error?, h]) |>.trans (error?_eq_some_iff.2 h)

lemma errorOf_cons_of_ok {found : Option LineMatch} (h : read.tells nesting root = .ok found) :
    errorOf nesting root (read :: rest) = errorOf nesting root rest :=
  List.findSome?_cons_of_isNone (by simp [Read.error?, h])

/-- Some reads break a search off: there is a line among them that does, and of what was read before it nothing breaks
the search off or tells of a match that is accepted. -/
def BreakOff (nesting : Nat) (root : Path) (accepted : LineMatch → Bool) (reads : List Read) (e : ScanError) : Prop :=
  ∃ before line behind, reads = before ++ .line line :: behind ∧
    (∀ earlier ∈ before, ∃ found, earlier.tells nesting root = .ok found ∧ ∀ m ∈ found, accepted m = false) ∧
    LineMatch.IsUnreadable nesting line e

/-- What comes before the first line that breaks a scan off has all its matches handed out. -/
lemma matchesOf_append {before rest : List Read} (h : ∀ read ∈ before, read.error? nesting root = none) :
    matchesOf nesting root (before ++ rest)
      = before.filterMap (Read.match? nesting root) ++ matchesOf nesting root rest := by
  unfold matchesOf
  rw [List.takeWhile_append_of_pos (by simpa using h), List.filterMap_append]

/-- A search is broken off if a line breaks its scan off and no match before it is accepted. -/
lemma breakOff_iff {accepted : LineMatch → Bool} {reads : List Read} :
    BreakOff nesting root accepted reads e ↔
      errorOf nesting root reads = some e ∧ (matchesOf nesting root reads).find? accepted = none := by
  constructor
  · intro ⟨before, line, behind, hreads, hbefore, hunreadable⟩
    have hline : (Read.line line).tells nesting root = .error e := tells_eq_error_iff.2 ⟨line, rfl, hunreadable⟩
    -- so the matches are those before the line that breaks the scan off
    have hreadable : ∀ earlier ∈ before, earlier.error? nesting root = none := by
      intro earlier hearlier
      obtain ⟨found, hfound, -⟩ := hbefore earlier hearlier
      simp [Read.error?, hfound]
    rw [hreads, matchesOf_append hreadable, matchesOf_cons_of_error hline, List.append_nil]
    refine ⟨List.findSome?_eq_some_iff.mpr ⟨before, _, behind, rfl, error?_eq_some_iff.2 hline, hreadable⟩, ?_⟩
    rw [List.find?_eq_none]
    intro m hm
    obtain ⟨earlier, hearlier, hmatch⟩ := List.mem_filterMap.mp hm
    obtain ⟨found, hfound, haccepted⟩ := hbefore earlier hearlier
    rw [Read.match?, hfound] at hmatch
    rw [haccepted m hmatch]
    exact Bool.false_ne_true
  · intro ⟨herror, hfind⟩
    obtain ⟨before, read, behind, hreads, hread, hreadable⟩ := List.findSome?_eq_some_iff.mp herror
    obtain ⟨line, rfl, hunreadable⟩ := tells_eq_error_iff.1 (error?_eq_some_iff.1 hread)
    refine ⟨before, line, behind, hreads, ?_, hunreadable⟩
    intro earlier hearlier
    cases htells : earlier.tells nesting root with
    | error e => exact absurd (error?_eq_some_iff.2 htells) (by simp [hreadable earlier hearlier])
    | ok found =>
      refine ⟨found, rfl, fun m hm => ?_⟩
      rw [hreads, matchesOf_append hreadable, List.find?_append, Option.or_eq_none_iff] at hfind
      have hmem : m ∈ before.filterMap (Read.match? nesting root) := by
        refine List.mem_filterMap.mpr ⟨earlier, hearlier, ?_⟩
        rw [Read.match?, htells]
        exact hm
      exact eq_false_of_ne_true (List.find?_eq_none.mp hfind.1 m hmem)

/-- What breaks a scan off is no failure of the search. -/
lemma isSearchFailure_of_errorOf {reads : List Read} (h : errorOf nesting root reads = some e) :
    e.isSearchFailure = false := by
  obtain ⟨read, -, hread⟩ := List.exists_of_findSome?_eq_some h
  obtain ⟨line, -, hunreadable⟩ := tells_eq_error_iff.1 (error?_eq_some_iff.1 hread)
  cases hunreadable <;> rfl

/-! ## Reading on -/

/-- Lines are read up to one that tells of a match or an error. -/
lemma pull_cons (notes : Journal) :
    pull nesting root notes (read :: rest) =
      match read.tells nesting root with
      | .error e => (.failed e, notes.reverse)
      | .ok (some m) => (.found m rest, notes.reverse)
      | .ok none => pull nesting root (if read = .oversized then skipNote root :: notes else notes) rest := by
  cases read with
  | oversized => rfl
  | line line =>
    have htells : (Read.line line).tells nesting root = LineMatch.ofEventLine nesting root line := rfl
    rw [pull, htells]
    cases LineMatch.ofEventLine nesting root line with
    | error e => rfl
    | ok found => cases found <;> rfl

/-- What has been noted before makes no difference to what is read. -/
lemma pull_notes (notes : Journal) (reads : List Read) :
    (pull nesting root notes reads).1 = (pull nesting root [] reads).1 := by
  induction reads generalizing notes with
  | nil => rfl
  | cons read rest ih =>
    rw [pull_cons, pull_cons]
    split
    · rfl
    · rfl
    · rw [ih, ih (if read = .oversized then _ else _)]

/-- What the reads from some read on come to. -/
lemma fst_pull_cons :
    (pull nesting root [] (read :: rest)).1 =
      match read.tells nesting root with
      | .error e => .failed e
      | .ok (some m) => .found m rest
      | .ok none => (pull nesting root [] rest).1 := by
  rw [pull_cons]
  split
  · rfl
  · rfl
  · exact pull_notes _ rest

/-- How a scan ends that can make sense of all that it reads of an output; `streamed` says whether there has been a
match. -/
def endOf (output : Output) (streamed : Bool) : Reply LineMatch :=
  if !output.finished || output.exit = .never then .blocked
  else if isNormalStatus output.status || streamed then .finished
  else .failed (.searcher output.complaint)

/-- No match is handed out at the end. -/
lemma endOf_ne_value (output : Output) (streamed : Bool) (m : LineMatch) : endOf output streamed ≠ .value m := by
  unfold endOf
  split
  · simp
  · split <;> simp

namespace Scan

/-- What is left of a scan at the end of what it reads. -/
def atEnd (scan : Scan) (output : Output) (streamed : Bool) : Scan :=
  if !output.finished then scan.reading output [] streamed
  else if output.exit = .never then scan.linger
  else scan.finish output

variable {scan : Scan} {output : Output} {read : Read} {reads rest : List Read} {streamed : Bool}

/-- The notes apart, a request is answered by what the reads come to. -/
lemma next_reading (scan : Scan) (output : Output) (reads : List Read) (streamed : Bool) :
    ((scan.reading output reads streamed).next.reply, (scan.reading output reads streamed).next.state) =
      match (pull scan.nesting scan.root [] reads).1 with
      | .found m rest => (.value m, scan.reading output rest true)
      | .failed e => (.failed e, scan.leave)
      | .exhausted => (endOf output streamed, scan.atEnd output streamed) := by
  have hnext : (scan.reading output reads streamed).next
      = (scan.reading output reads streamed).read output reads streamed := rfl
  have hroot : (scan.reading output reads streamed).root = scan.root := rfl
  have hnesting : (scan.reading output reads streamed).nesting = scan.nesting := rfl
  rw [hnext, Scan.read, hroot, hnesting]
  cases hpull : pull scan.nesting scan.root [] reads with
  | mk pulled notes =>
    cases pulled with
    | found m rest => rfl
    | failed e => rfl
    | exhausted =>
      -- only a searcher that has ended has a status to look at
      dsimp only
      unfold endOf conclude atEnd
      cases output.finished with
      | false => rfl
      | true =>
        by_cases hexit : output.exit = .never
        · simp only [hexit]
          rfl
        · simp only [hexit]
          cases isNormalStatus output.status with
          | true => rfl
          | false => cases streamed <;> rfl

/-- A request is answered by a match that comes next. -/
lemma next_of_match {m : LineMatch} (h : read.tells scan.nesting scan.root = .ok (some m)) :
    (scan.reading output (read :: rest) streamed).next.reply = .value m ∧
      (scan.reading output (read :: rest) streamed).next.state = scan.reading output rest true := by
  have hnext := next_reading scan output (read :: rest) streamed
  rw [fst_pull_cons, h] at hnext
  exact Prod.mk.inj hnext

/-- What a scan hands out in all that has something to read, and how it ends: the matches of its reads come first,
and then what the first read that breaks it off leads to, or else the end. -/
structure IsDrained (scan : Scan) (output : Output) (reads : List Read) (streamed : Bool)
    (drained : List LineMatch × Turn Counterpart.Scan LineMatch) : Prop where
  values : drained.1 = matchesOf scan.nesting scan.root reads
  failed : ∀ e, errorOf scan.nesting scan.root reads = some e →
    drained.2.reply = .failed e ∧ drained.2.state = .ripgrep scan.leave
  ended : errorOf scan.nesting scan.root reads = none →
    drained.2.reply = endOf output (streamed || !(matchesOf scan.nesting scan.root reads).isEmpty)

/-- What a scan is drained to does not depend on what it notes. -/
lemma IsDrained.congr {drained drained' : List LineMatch × Turn Counterpart.Scan LineMatch}
    (h : IsDrained scan output reads streamed drained)
    (hsame : drained'.1 = drained.1 ∧ drained'.2.reply = drained.2.reply ∧ drained'.2.state = drained.2.state) :
    IsDrained scan output reads streamed drained' := by
  obtain ⟨hvalues, hend, hlast⟩ := hsame
  refine ⟨?_, ?_, ?_⟩
  · rw [hvalues]
    exact h.values
  · rw [hend, hlast]
    exact h.failed
  · rw [hend]
    exact h.ended

/-- Behind the last line a scan comes to its end. -/
lemma isDrained_nil :
    IsDrained scan output [] streamed (Feed.drain (Counterpart.Scan.ripgrep (scan.reading output [] streamed))) := by
  obtain ⟨hreply, -⟩ := Prod.mk.inj (next_reading scan output [] streamed)
  have hnone : ∀ m, (Feed.next (Counterpart.Scan.ripgrep (scan.reading output [] streamed))).reply ≠ .value m :=
    fun m hm => endOf_ne_value output streamed m (hreply.symm.trans hm)
  rw [Feed.drain_of_no_value hnone]
  refine ⟨rfl, ?_, ?_⟩
  · intro e he
    exact nomatch he
  · intro _
    rw [show matchesOf scan.nesting scan.root [] = [] from rfl, List.isEmpty_nil, Bool.not_true, Bool.or_false]
    exact hreply

/-- A line that breaks a scan off is the end. -/
lemma isDrained_cons_of_error {e : ScanError} (h : read.tells scan.nesting scan.root = .error e) :
    IsDrained scan output (read :: rest) streamed
      (Feed.drain (Counterpart.Scan.ripgrep (scan.reading output (read :: rest) streamed))) := by
  have hnext := next_reading scan output (read :: rest) streamed
  rw [fst_pull_cons, h] at hnext
  obtain ⟨hreply, hstate⟩ := Prod.mk.inj hnext
  have hnone : ∀ m, (Feed.next (Counterpart.Scan.ripgrep
      (scan.reading output (read :: rest) streamed))).reply ≠ .value m :=
    fun m hm => nomatch hreply.symm.trans hm
  rw [Feed.drain_of_no_value hnone]
  refine ⟨(matchesOf_cons_of_error h).symm, ?_, ?_⟩
  · intro e' he'
    rw [errorOf_cons_of_error h] at he'
    obtain rfl := Option.some.inj he'
    exact ⟨hreply, congrArg Counterpart.Scan.ripgrep hstate⟩
  · intro hnever
    rw [errorOf_cons_of_error h] at hnever
    exact nomatch hnever

/-- A read that tells of no match makes no difference. -/
lemma isDrained_cons_of_none (h : read.tells scan.nesting scan.root = .ok none)
    (hrest : IsDrained scan output rest streamed
      (Feed.drain (Counterpart.Scan.ripgrep (scan.reading output rest streamed)))) :
    IsDrained scan output (read :: rest) streamed
      (Feed.drain (Counterpart.Scan.ripgrep (scan.reading output (read :: rest) streamed))) := by
  have hnext := next_reading scan output (read :: rest) streamed
  rw [fst_pull_cons, h] at hnext
  dsimp only at hnext
  rw [← next_reading scan output rest streamed] at hnext
  obtain ⟨hreply, hstate⟩ := Prod.mk.inj hnext
  -- the first request skips the read, and all others are those to what comes behind it
  obtain ⟨hvalues, hfailed, hended⟩ := hrest.congr
    (Feed.drain_congr (s := Counterpart.Scan.ripgrep (scan.reading output (read :: rest) streamed)) hreply
      (congrArg Counterpart.Scan.ripgrep hstate))
  have hmatches : matchesOf scan.nesting scan.root (read :: rest) = matchesOf scan.nesting scan.root rest :=
    matchesOf_cons_of_ok h
  have herror : errorOf scan.nesting scan.root (read :: rest) = errorOf scan.nesting scan.root rest :=
    errorOf_cons_of_ok h
  refine ⟨?_, ?_, ?_⟩
  · rwa [hmatches]
  · rwa [herror]
  · rwa [hmatches, herror]

/-- A match is handed out before those of the reads behind it. -/
lemma isDrained_cons_of_some {m : LineMatch} (h : read.tells scan.nesting scan.root = .ok (some m))
    (hrest : IsDrained scan output rest true
      (Feed.drain (Counterpart.Scan.ripgrep (scan.reading output rest true)))) :
    IsDrained scan output (read :: rest) streamed
      (Feed.drain (Counterpart.Scan.ripgrep (scan.reading output (read :: rest) streamed))) := by
  have hnext : (scan.reading output (read :: rest) streamed).next.reply = .value m ∧
      (scan.reading output (read :: rest) streamed).next.state = scan.reading output rest true := next_of_match h
  obtain ⟨hreply, hstate⟩ := hnext
  have hvalue : (Feed.next (Counterpart.Scan.ripgrep (scan.reading output (read :: rest) streamed))).reply = .value m :=
    hreply
  have hleft : (Feed.next (Counterpart.Scan.ripgrep (scan.reading output (read :: rest) streamed))).state
      = .ripgrep (scan.reading output rest true) := congrArg Counterpart.Scan.ripgrep hstate
  have hmatches : matchesOf scan.nesting scan.root (read :: rest) = m :: matchesOf scan.nesting scan.root rest :=
    matchesOf_cons_of_ok h
  have herror : errorOf scan.nesting scan.root (read :: rest) = errorOf scan.nesting scan.root rest :=
    errorOf_cons_of_ok h
  rw [Feed.drain_of_value hvalue, hleft]
  refine ⟨?_, ?_, ?_⟩
  · rw [hmatches, hrest.values]
  · rw [herror]
    exact hrest.failed
  · rw [herror, hmatches, List.isEmpty_cons, Bool.not_false, Bool.or_true]
    exact hrest.ended

/-- A scan hands out the matches of its reads, up to the first one that breaks it off, and ends as it should. -/
theorem isDrained_drain (scan : Scan) (output : Output) (reads : List Read) (streamed : Bool) :
    IsDrained scan output reads streamed
      (Feed.drain (Counterpart.Scan.ripgrep (scan.reading output reads streamed))) := by
  induction reads generalizing streamed with
  | nil => exact isDrained_nil
  | cons read rest ih =>
    cases htells : read.tells scan.nesting scan.root with
    | error e => exact isDrained_cons_of_error htells
    | ok found =>
      cases found with
      | none => exact isDrained_cons_of_none htells (ih streamed)
      | some m => exact isDrained_cons_of_some htells (ih true)

/-! ## Scans from the beginning -/

/-- A scan that has not begun. -/
def fresh (root : Path) (pattern : Text) (nesting : Nat) (launch : Launch) : Scan :=
  { root := root, pattern := pattern, nesting := nesting, launch := launch }

/-- A scan that can start the searcher reads all of its output. -/
theorem isDrained_fresh (root : Path) (pattern : Text) (nesting : Nat) (output : Output) :
    IsDrained (fresh root pattern nesting (.runs output)).start output output.reads false
      (Feed.drain (Counterpart.Scan.ripgrep (fresh root pattern nesting (.runs output)))) := by
  -- the first request is answered as if the searcher had been started before
  apply (isDrained_drain (fresh root pattern nesting (.runs output)).start output output.reads false).congr
  exact Feed.drain_congr rfl rfl

/-- The first request is answered by a match that comes first. -/
lemma after_next_of_match {root : Path} {nesting : Nat} {output : Output} {read : Read} {rest : List Read}
    {m : LineMatch} (hreads : output.reads = read :: rest) (h : read.tells nesting root = .ok (some m))
    (pattern : Text) :
    Feed.after (Counterpart.Scan.ripgrep (fresh root pattern nesting (.runs output))) [.next] =
      .ripgrep ((fresh root pattern nesting (.runs output)).start.reading output rest true) := by
  have hnext : ((fresh root pattern nesting (.runs output)).start.reading output (read :: rest) false).next.state
      = (fresh root pattern nesting (.runs output)).start.reading output rest true := (next_of_match h).2
  show Counterpart.Scan.ripgrep ((fresh root pattern nesting (.runs output)).start.read output output.reads false).state
    = _
  rw [hreads]
  exact congrArg Counterpart.Scan.ripgrep hnext

/-- A scan that cannot start the searcher hands out nothing and says why. -/
lemma drain_refused (root : Path) (pattern : Text) (nesting : Nat) (fault : Fault) :
    Feed.drain (Counterpart.Scan.ripgrep (fresh root pattern nesting (.refused fault)))
      = ([], ⟨.failed (.launch fault), .ripgrep (fresh root pattern nesting (.refused fault)).refuse, []⟩) := by
  have hnone : ∀ m,
      (Feed.next (Counterpart.Scan.ripgrep (fresh root pattern nesting (.refused fault)))).reply ≠ .value m :=
    fun _ hm => nomatch hm
  rw [Feed.drain_of_no_value hnone]
  rfl

end Scan

end Ripgrep

end Counterpart
