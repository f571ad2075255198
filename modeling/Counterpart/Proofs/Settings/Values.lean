import Counterpart.Proofs.Json.Reading
import Counterpart.Proofs.Number.Rounding
import Counterpart.Settings

/-!
# Settings, value by value

Every setting is read from a value of its own in the settings file.  What makes no sense counts as missing, and does
no harm to the other settings, with one exception: a number of seconds that is too large makes the whole file
unreadable.

* `Heeds`: what a setting makes of its value;
* `Follows`: what the settings make of an object;
* `load_heedsEachValue`: the settings file as a whole.
-/

namespace Counterpart

/-- The name of a tool is that of no other. -/
lemma Tool.ofName?_eq_some_iff {name : Text} {tool : Tool} :
    Tool.ofName? name = some tool ↔ name = tool.name.toList := by
  constructor
  · intro h
    have hname := List.find?_some h
    exact (of_decide_eq_true hname).symm
  · rintro rfl
    exact Tool.ofName?_name tool

namespace Settings

open Number (Binary64)

/-! ## Values and defaults -/

/-- What a setting makes of the value that it is read from: what the value means, and the default if there is none or
it means nothing. -/
inductive Heeds {α : Type} (Means : Json → α → Prop) (default : α) : Option Json → α → Prop
  | value {v : Json} {a : α} (h : Means v a) : Heeds Means default (some v) a
  | meaningless {v : Json} (h : ∀ a, ¬ Means v a) : Heeds Means default (some v) default
  | missing : Heeds Means default none default

/-- A list of texts that is not empty means the extensions in it. -/
inductive MeansExtensions : Json → List Text → Prop
  | texts {ts : List Text} (h : ts ≠ []) : MeansExtensions (.array (ts.map .string)) (ExtensionTable.normalSet ts)

/-- A list of texts means the suffixes in it. -/
inductive MeansSuffixes : Json → List Text → Prop
  | texts (ts : List Text) : MeansSuffixes (.array (ts.map .string)) (ts.filter (· ≠ []))

/-- The name of a tool means the tool. -/
inductive MeansTool : Json → Tool → Prop
  | name (tool : Tool) : MeansTool (.string tool.name.toList) tool

/-- A number greater than zero means itself, as the nearest floating-point number. -/
inductive MeansSeconds : Json → Binary64 → Prop
  | int {n : Int} {x : Binary64} (hpositive : 0 < n) (h : Binary64.ofInt? n = some x) : MeansSeconds (.int n) x
  | float {x : Binary64} (h : x.IsPositive) : MeansSeconds (.float x) x

/-- A setting that is read by a function heeds its value, if the function says what values mean. -/
lemma Heeds.getD {α : Type} {Means : Json → α → Prop} {read : Json → Option α} (default : α)
    (h : ∀ v a, read v = some a ↔ Means v a) (value : Option Json) :
    Heeds Means default value ((value.bind read).getD default) := by
  cases value with
  | none => exact .missing
  | some v =>
    rw [Option.bind_some]
    cases hread : read v with
    | some a => exact .value ((h v a).mp hread)
    | none =>
      refine .meaningless fun a ha => ?_
      exact nomatch hread.symm.trans ((h v a).mpr ha)

/-- What a value means is heeded, if it means one thing only. -/
lemma Heeds.eq_of_means {α : Type} {Means : Json → α → Prop} {default a b : α} {v : Json}
    (h : Heeds Means default (some v) a) (hb : Means v b) (hsame : ∀ {c}, Means v c → c = b) : a = b := by
  cases h with
  | value ha => exact hsame ha
  | meaningless hnone => exact absurd hb (hnone b)

/-- For a value that means nothing there is the default. -/
lemma Heeds.eq_default {α : Type} {Means : Json → α → Prop} {default a : α} {v : Json}
    (h : Heeds Means default (some v) a) (hnone : ∀ b, ¬ Means v b) : a = default := by
  cases h with
  | value ha => exact absurd ha (hnone a)
  | meaningless _ => rfl

/-! ## The table -/

/-- Only an array of strings is read as texts. -/
lemma texts?_eq_some_iff {v : Json} {ts : List Text} : texts? v = some ts ↔ v = .array (ts.map .string) := by
  have hitem (v : Json) (t : Text) : text? v = some t ↔ v = .string t := by
    cases v <;> simp [text?]
  have hitems (items : List Json) : items.mapM text? = some ts ↔ items = ts.map .string := by
    induction items generalizing ts with
    | nil => cases ts <;> simp
    | cons item items ih =>
      cases ts with
      | nil => simp [List.mapM_cons, Option.bind_eq_some_iff]
      | cons t ts => simp [List.mapM_cons, Option.bind_eq_some_iff, hitem, ih]
  cases v with
  | array items =>
    rw [Json.array.injEq]
    exact hitems items
  | _ => simp [texts?]

/-- The extensions are those that the list means, or the default ones. -/
lemma heeds_extensions (default : List Text) (config : Json) (name : String) :
    Heeds MeansExtensions default (config.field? name.toList)
      (((someTextsAt? config name).map ExtensionTable.normalSet).getD default) := by
  have hread (v : Json) (extensions : List Text) :
      ((texts? v).filter (· ≠ [])).map ExtensionTable.normalSet = some extensions ↔ MeansExtensions v extensions := by
    simp only [Option.map_eq_some_iff, Option.filter_eq_some_iff, texts?_eq_some_iff, decide_eq_true_eq]
    constructor
    · rintro ⟨ts, ⟨rfl, hne⟩, rfl⟩
      exact .texts hne
    · rintro ⟨hne⟩
      exact ⟨_, ⟨rfl, hne⟩, rfl⟩
  have hsetting := Heeds.getD default hread (config.field? name.toList)
  unfold someTextsAt? textsAt?
  cases hfield : config.field? name.toList with
  | none => rwa [hfield] at hsetting
  | some v => rwa [hfield] at hsetting

/-- No extension that is heeded is empty. -/
lemma extension_ne_nil {value : Option Json} {default extensions : List Text}
    (h : Heeds MeansExtensions default value extensions) (hdefault : ∀ extension ∈ default, extension ≠ []) :
    ∀ extension ∈ extensions, extension ≠ [] := by
  cases h with
  | value h =>
    obtain ⟨hne⟩ := h
    intro extension hextension
    exact of_decide_eq_true (List.mem_filter.mp (Text.mem_sortedSet.mp hextension)).2
  | meaningless h => exact hdefault
  | missing => exact hdefault

/-- No suffix that is heeded is empty. -/
lemma suffix_ne_nil {value : Option Json} {suffixes : List Text}
    (h : Heeds MeansSuffixes ExtensionTable.defaultSuffixes value suffixes) : ∀ suffix ∈ suffixes, suffix ≠ [] := by
  have hdefault : ∀ suffix ∈ ExtensionTable.defaultSuffixes, suffix ≠ [] := by decide
  cases h with
  | value h =>
    obtain ⟨ts⟩ := h
    intro suffix hsuffix
    exact of_decide_eq_true (List.mem_filter.mp hsuffix).2
  | meaningless h => exact hdefault
  | missing => exact hdefault

/-- The suffixes are those of the list that are not empty, or the default ones. -/
lemma heeds_suffixes (config : Json) :
    Heeds MeansSuffixes ExtensionTable.defaultSuffixes (config.field? "companion_suffixes".toList)
      (((textsAt? config "companion_suffixes").map (·.filter (· ≠ []))).getD ExtensionTable.defaultSuffixes) := by
  have hread (v : Json) (suffixes : List Text) :
      (texts? v).map (·.filter (· ≠ [])) = some suffixes ↔ MeansSuffixes v suffixes := by
    simp only [Option.map_eq_some_iff, texts?_eq_some_iff]
    constructor
    · rintro ⟨ts, rfl, rfl⟩
      exact .texts ts
    · rintro ⟨ts⟩
      exact ⟨ts, rfl, rfl⟩
  have hsetting := Heeds.getD ExtensionTable.defaultSuffixes hread (config.field? "companion_suffixes".toList)
  unfold textsAt?
  rwa [Option.map_bind]

/-- The table is made of its three lists, also where nothing is configured for it. -/
lemma tableOf_eq (config : Json) :
    tableOf config = .ofLists (someTextsAt? config "header_extensions") (someTextsAt? config "source_extensions")
      (textsAt? config "companion_suffixes") := by
  unfold tableOf
  split
  · next hheaders hsources hsuffixes =>
    rw [hheaders, hsources, hsuffixes]
    rfl
  · rfl

/-! ## Tool and time limit -/

/-- A value means the tool that it names. -/
lemma meansTool_iff {v : Json} {tool : Tool} : MeansTool v tool ↔ (text? v).bind Tool.ofName? = some tool := by
  constructor
  · rintro ⟨tool⟩
    exact Tool.ofName?_name tool
  · intro h
    obtain ⟨name, hname, htool⟩ := Option.bind_eq_some_iff.mp h
    obtain rfl := Tool.ofName?_eq_some_iff.mp htool
    cases v with
    | string t =>
      obtain rfl := Option.some.inj hname
      exact .name tool
    | _ => exact nomatch hname

/-- The tool is the one that is named, or the one that chooses by itself. -/
lemma heeds_tool (config : Json) : Heeds MeansTool .auto (config.field? "search_tool".toList) (toolOf config) := by
  have hread (v : Json) (tool : Tool) : (text? v).bind Tool.ofName? = some tool ↔ MeansTool v tool := meansTool_iff.symm
  have hsetting := Heeds.getD Tool.auto hread (config.field? "search_tool".toList)
  rwa [← Option.bind_assoc] at hsetting

/-- The value that the time limit is read from. -/
def secondsAt (config : Json) : Option Json := config.field? "include_search_timeout_seconds".toList

/-- The time limit cannot be read exactly if it is an integer that is too large. -/
lemma timeoutOf_eq_error_iff {config : Json} {e : TimeoutTooLarge} :
    timeoutOf config = .error e ↔
      secondsAt config = some (.int e.seconds) ∧ (Binary64.leastTooLarge : Int) ≤ e.seconds := by
  show _ ↔ config.field? "include_search_timeout_seconds".toList = _ ∧ _
  unfold timeoutOf
  cases config.field? "include_search_timeout_seconds".toList with
  | none => exact iff_of_false (fun h => nomatch h) (fun h => nomatch h.1)
  | some v =>
    cases v with
    | int n =>
      obtain ⟨seconds⟩ := e
      have hbound : Binary64.ofInt? n = none ↔ Binary64.leastTooLarge ≤ n.natAbs := Binary64.ofInt?_eq_none_iff
      by_cases hn : n ≤ 0
      · have hleast : (0 : Int) < Binary64.leastTooLarge := by
          unfold Binary64.leastTooLarge
          positivity
        simp only [if_pos hn, Option.some.injEq, Json.int.injEq]
        constructor
        · exact fun h => nomatch h
        · rintro ⟨rfl, h⟩
          omega
      · simp only [if_neg hn, Option.some.injEq, Json.int.injEq]
        cases hofInt : Binary64.ofInt? n with
        | some x =>
          have hsmall : ¬ Binary64.leastTooLarge ≤ n.natAbs := fun h => nomatch hofInt.symm.trans (hbound.mpr h)
          constructor
          · exact fun h => nomatch h
          · rintro ⟨rfl, h⟩
            omega
        | none =>
          have hlarge := hbound.mp hofInt
          simp only [Except.error.injEq, TimeoutTooLarge.mk.injEq]
          constructor
          · rintro rfl
            exact ⟨rfl, by omega⟩
          · exact fun h => h.1
    | _ => exact iff_of_false (fun h => nomatch h) (fun h => nomatch h.1)

/-- The time limit heeds its value, unless that is no number. -/
lemma heeds_timeout {config : Json} {x : Binary64} (h : timeoutOf config = .ok x)
    (hnumber : secondsAt config ≠ some (.float .nan)) :
    Heeds MeansSeconds TimeLimit.defaultSeconds (secondsAt config) x := by
  unfold secondsAt at hnumber ⊢
  unfold timeoutOf at h
  cases hvalue : config.field? "include_search_timeout_seconds".toList with
  | none =>
    rw [hvalue] at h
    obtain rfl := Except.ok.inj h
    exact .missing
  | some v =>
    rw [hvalue] at h hnumber
    cases v with
    | int n =>
      dsimp only at h
      split at h
      · next hn =>
        obtain rfl := Except.ok.inj h
        refine .meaningless fun a ha => ?_
        obtain ⟨hpositive, -⟩ := ha
        exact absurd hn (not_le.mpr hpositive)
      · next hn =>
        split at h
        · next y hofInt =>
          obtain rfl := Except.ok.inj h
          exact .value (.int (not_le.mp hn) hofInt)
        · exact nomatch h
    | float y =>
      obtain rfl := Except.ok.inj h
      have hnan : y ≠ .nan := fun hy => hnumber (by rw [hy])
      by_cases hpositive : y.IsPositive
      · have hsign : y.isNonPositive = false := Binary64.isNonPositive_eq_false_iff.mpr (.inl hpositive)
        rw [hsign]
        exact .value (.float hpositive)
      · have hsign : y.isNonPositive = true := by
          by_contra hnot
          exact (Binary64.isNonPositive_eq_false_iff.mp (eq_false_of_ne_true hnot)).elim hpositive hnan
        rw [hsign]
        refine .meaningless fun a ha => ?_
        cases ha with
        | float h => exact hpositive h
    | _ =>
      obtain rfl := Except.ok.inj h
      exact .meaningless fun a ha => nomatch ha

/-- A time limit that is no number is taken as it is. -/
lemma timeoutOf_of_noNumber {config : Json} (h : secondsAt config = some (.float .nan)) :
    timeoutOf config = .ok .nan := by
  unfold timeoutOf
  rw [show config.field? "include_search_timeout_seconds".toList = some (.float .nan) from h]
  rfl

/-! ## The settings file -/

/-- What the settings make of an object: each one heeds its own value, but for a time limit that is no number, which is
taken as it is. -/
structure Follows (config : Json) (settings : Settings) : Prop where
  headers : Heeds MeansExtensions ExtensionTable.defaultHeaders (config.field? "header_extensions".toList)
    settings.table.headers
  sources : Heeds MeansExtensions ExtensionTable.defaultSources (config.field? "source_extensions".toList)
    settings.table.sources
  suffixes : Heeds MeansSuffixes ExtensionTable.defaultSuffixes (config.field? "companion_suffixes".toList)
    settings.table.suffixes
  tool : Heeds MeansTool .auto (config.field? "search_tool".toList) settings.tool
  timeout : secondsAt config ≠ some (.float .nan) →
    Heeds MeansSeconds TimeLimit.defaultSeconds (secondsAt config) settings.timeout
  noNumber : secondsAt config = some (.float .nan) → settings.timeout = .nan

/-- The settings can be read if the time limit can be. -/
lemma ofConfig_eq (config : Json) :
    ofConfig config = (timeoutOf config).map fun timeout => ⟨tableOf config, timeout, toolOf config⟩ := by
  unfold ofConfig
  cases timeoutOf config <;> rfl

/-- Settings consist of the table, the time limit and the tool. -/
lemma exists_timeout_of_ofConfig {config : Json} {settings : Settings} (h : ofConfig config = .ok settings) :
    ∃ timeout, timeoutOf config = .ok timeout ∧ settings = ⟨tableOf config, timeout, toolOf config⟩ := by
  rw [ofConfig_eq] at h
  cases htimeout : timeoutOf config with
  | error e =>
    rw [htimeout] at h
    exact nomatch h
  | ok timeout =>
    rw [htimeout] at h
    exact ⟨timeout, rfl, (Except.ok.inj h).symm⟩

/-- Settings that can be made of a configuration follow it, each its own value. -/
lemma follows_of_ofConfig {config : Json} {settings : Settings} (h : ofConfig config = .ok settings) :
    Follows config settings := by
  obtain ⟨timeout, htimeout, rfl⟩ := exists_timeout_of_ofConfig h
  have htable := tableOf_eq config
  refine ⟨?_, ?_, ?_, heeds_tool config, heeds_timeout htimeout, ?_⟩
  · rw [htable]
    exact heeds_extensions _ config "header_extensions"
  · rw [htable]
    exact heeds_extensions _ config "source_extensions"
  · rw [htable]
    exact heeds_suffixes config
  · exact fun hnan => Except.ok.inj (htimeout.symm.trans (timeoutOf_of_noNumber hnan))

/-- What the settings file holds: the members of the object that it spells, and none if it spells something else or
nothing, or cannot be read. -/
inductive Holds (around : Surroundings) : List (Text × Json) → Prop
  | object {before t after : Text} {ms : List (Text × Json)}
      (hread : around.fs.read around.cwd around.settingsFile = .ok (Text.Utf8.encode (before ++ t ++ after)))
      (hbefore : Json.IsBlanks before) (hafter : Json.IsBlanks after)
      (h : Json.Spells around.nesting t (.value (.object ms))) : Holds around ms
  | other {before t after : Text} {v : Json}
      (hread : around.fs.read around.cwd around.settingsFile = .ok (Text.Utf8.encode (before ++ t ++ after)))
      (hbefore : Json.IsBlanks before) (hafter : Json.IsBlanks after) (h : Json.Spells around.nesting t (.value v))
      (hother : ∀ ms, v ≠ .object ms) : Holds around []
  | garbled {data : Bytes} (hread : around.fs.read around.cwd around.settingsFile = .ok data)
      (h : ∀ t, Text.Utf8.decode? data = some t → ∃ e, Json.read around.nesting t = .error e) : Holds around []
  | unreadable {e : LookError} (hread : around.fs.read around.cwd around.settingsFile = .error e) : Holds around []

/-- What is written in the settings file is read as the value that it spells. -/
lemma configOf_encode {nesting : Nat} {before t after : Text} {v : Json} (hbefore : Json.IsBlanks before)
    (hafter : Json.IsBlanks after) (h : Json.Spells nesting t (.value v)) :
    configOf nesting (Text.Utf8.encode (before ++ t ++ after)) =
      match v with
      | .object members => .object members
      | _ => .object [] := by
  unfold configOf
  rw [Text.Utf8.decode?_encode, Option.map_some, h.read_eq hbefore hafter]
  cases v <;> rfl

/-- A settings file that holds some members is read as the object of these. -/
lemma Holds.loadConfig_eq {around : Surroundings} {ms : List (Text × Json)} (h : Holds around ms) :
    loadConfig around = .object ms := by
  unfold loadConfig
  cases h with
  | object hread hbefore hafter h =>
    rw [hread]
    exact configOf_encode hbefore hafter h
  | @other before t after v hread hbefore hafter h hother =>
    rw [hread]
    dsimp only
    rw [configOf_encode hbefore hafter h]
    cases v with
    | object ms => exact absurd rfl (hother ms)
    | _ => rfl
  | @garbled data hread h =>
    rw [hread]
    dsimp only
    unfold configOf
    cases htext : Text.Utf8.decode? data with
    | none => rfl
    | some t =>
      obtain ⟨e, he⟩ := h t htext
      rw [Option.map_some, he]
  | unreadable hread => rw [hread]

/-- Settings cannot be loaded exactly if the time limit is a whole number that is too large. -/
lemma load_eq_error_iff {around : Surroundings} {e : TimeoutTooLarge} :
    load around = .error e ↔
      secondsAt (loadConfig around) = some (.int e.seconds) ∧ (Binary64.leastTooLarge : Int) ≤ e.seconds := by
  unfold load
  rw [ofConfig_eq, ← timeoutOf_eq_error_iff]
  cases timeoutOf (loadConfig around) <;> simp [Except.map]

/-- Every setting heeds its own value in the settings file, whatever else is in the file.  Only an integer that is too
large for the time limit leaves nothing to be read. -/
theorem load_heedsEachValue (around : Surroundings) :
    (∀ ms, Holds around ms → loadConfig around = .object ms) ∧
    (∀ e, load around = .error e ↔
      secondsAt (loadConfig around) = some (.int e.seconds) ∧ (Binary64.leastTooLarge : Int) ≤ e.seconds) ∧
    ∀ settings, load around = .ok settings →
      Follows (loadConfig around) settings ∧ ∀ suffix ∈ settings.table.suffixes, suffix ≠ [] := by
  refine ⟨?_, ?_, ?_⟩
  · exact fun ms h => h.loadConfig_eq
  · exact fun e => load_eq_error_iff
  · intro settings h
    have hfollows := follows_of_ofConfig h
    exact ⟨hfollows, suffix_ne_nil hfollows.suffixes⟩

/-- Surroundings with nothing but a settings file. -/
def withSettings (t : Text) : Surroundings where
  fs := FileSystem.empty.put (Path.ofText "/settings".toList).components { entry := .file (Text.Utf8.encode t) }
  cwd := Path.root
  settingsFile := Path.ofText "/settings".toList

/-- A file with the spelling of an object holds its members. -/
lemma holds_withSettings {t : Text} {ms : List (Text × Json)}
    (h : Json.Spells (withSettings t).nesting t (.value (.object ms))) : Holds (withSettings t) ms := by
  have hnone := Json.isBlanks_nil
  have hread : (withSettings t).fs.read (withSettings t).cwd (withSettings t).settingsFile
      = .ok (Text.Utf8.encode ([] ++ t ++ [])) := by
    rw [List.nil_append, List.append_nil]
    rfl
  exact .object hread hnone hnone h

/-- The members of a settings file that names a tool, has a number for the companion suffixes, and has a number of
seconds with some digits, all of them nines. -/
def toolSuffixesSeconds (digits : Nat) : List (Text × Json) :=
  [("search_tool".toList, .string "walk".toList), ("companion_suffixes".toList, .int 5),
    ("include_search_timeout_seconds".toList, .int (Json.decimal (List.replicate digits 9)))]

/-- The settings of the example can be written in a file. -/
lemma exists_spells_toolSuffixesSeconds (n digits : Nat) (hpositive : 0 < digits)
    (hdigits : digits ≤ Json.greatestIntegerDigits) :
    ∃ t, Json.Spells (n + 1) t (.value (.object (toolSuffixesSeconds digits))) := by
  have hnone := Json.isBlanks_nil
  have hnines : Json.IsWhole (List.replicate digits 9) := by
    obtain ⟨n, rfl⟩ := Nat.exists_eq_succ_of_ne_zero hpositive.ne'
    exact .inr ⟨9, List.replicate n 9, rfl, by decide⟩
  have hnine : ∀ d ∈ List.replicate digits 9, d < 10 := by
    intro d hd
    rw [List.eq_of_mem_replicate hd]
    decide
  have hlength : (List.replicate digits 9).length ≤ Json.greatestIntegerDigits := by rwa [List.length_replicate]
  have htool := Json.Spells.member (n := n) (Json.spellsChars_plain "search_tool".toList (by simp)) hnone hnone
    (.string (Json.spellsChars_plain "walk".toList (by simp)))
  have hsuffixes := Json.Spells.member (n := n) (Json.spellsChars_plain "companion_suffixes".toList (by simp)) hnone
    hnone
    (.number (@Json.SpellsNumber.int false [5] (.inr ⟨5, [], rfl, by decide⟩) (by decide) (by decide)))
  have hseconds := Json.Spells.member (n := n)
    (Json.spellsChars_plain "include_search_timeout_seconds".toList (by simp)) hnone hnone
    (.number (@Json.SpellsNumber.int false _ hnines hnine hlength))
  exact ⟨_, .object hnone (.moreMembers htool hnone hnone (.moreMembers hsuffixes hnone hnone
    (.lastMember hseconds hnone)))⟩

/-- With two digits the tool is heeded and the companion suffixes keep their default; with three hundred and nine there
are no settings. -/
theorem load_heedsEachValue_toolSuffixesSeconds :
    (∃ t settings, load (withSettings t) = .ok settings ∧ settings.tool = .walk ∧
      settings.table.suffixes = ExtensionTable.defaultSuffixes) ∧
    ∃ t n, load (withSettings t) = .error ⟨n⟩ := by
  constructor
  · obtain ⟨t, ht⟩ := exists_spells_toolSuffixesSeconds 899 2 (by decide) (by decide)
    obtain ⟨hconfig, herror, hok⟩ := load_heedsEachValue (withSettings t)
    have hms := hconfig _ (holds_withSettings ht)
    cases hload : load (withSettings t) with
    | error e =>
      obtain ⟨hvalue, hlarge⟩ := (herror e).mp hload
      rw [hms] at hvalue
      have hseconds : (99 : Int) = e.seconds := Json.int.inj (Option.some.inj hvalue)
      rw [← hseconds] at hlarge
      exact absurd hlarge (by decide +kernel)
    | ok settings =>
      obtain ⟨hfollows, -⟩ := hok settings hload
      rw [hms] at hfollows
      refine ⟨t, settings, hload, ?_, ?_⟩
      · have htool : Heeds MeansTool .auto (some (.string "walk".toList)) settings.tool := hfollows.tool
        exact htool.eq_of_means (MeansTool.name .walk) fun h => (Option.some.inj (meansTool_iff.mp h)).symm
      · have hsuffixes : Heeds MeansSuffixes ExtensionTable.defaultSuffixes (some (.int 5)) settings.table.suffixes :=
          hfollows.suffixes
        exact hsuffixes.eq_default fun suffixes h => nomatch h
  · obtain ⟨t, ht⟩ := exists_spells_toolSuffixesSeconds 899 309 (by decide) (by decide)
    obtain ⟨hconfig, herror, hok⟩ := load_heedsEachValue (withSettings t)
    have hms := hconfig _ (holds_withSettings ht)
    refine ⟨t, _, (herror ⟨Json.decimal (List.replicate 309 9)⟩).mpr ⟨?_, ?_⟩⟩
    · rw [hms]
      rfl
    · rw [Nat.cast_le]
      decide +kernel

end Settings

end Counterpart
