import Mathlib.Data.Nat.Find
import Mathlib.Tactic.Choose
import PortableSql.Proofs.Sql.ColumnIndex

/-!
# Columns looked up over time

A `ColumnIndex` is used for as long as it is wanted. Columns are looked up in it, it is cleared, and the
source that it asks is replaced by another one, which may fail where the one before did not. What it
finds is told by what has happened: names stand for the columns that the source had when a name was
first looked up, since the index was cleared, and the source did not fail. The source is asked only if
there was no such lookup.

## Main definitions

* `ColumnAnswers.Has`, `ColumnAnswers.FailsWith` — what comes of asking a source for its names.
* `IndexUse` — an index, the source that it asks, and what has been asked.
* `Lookups` — the sources of the lookups since the index was cleared.
* `ColumnFound` — what a name stands for.
-/
namespace PortableSql

/-! ## Sources -/

/-- What a source is asked. -/
inductive ColumnRequest where
  | count
  | name (position : ℕ)
  deriving DecidableEq

/-- What a source answers. -/
structure ColumnAnswers where
  count : Result ℕ
  name : ℕ → Result String

/-- Computations that record what they ask. -/
abbrev Asking := ExceptT Error (StateM (List ColumnRequest))

/-- Records what is asked, and gives the answer. -/
def ask {α : Type} (request : ColumnRequest) (answer : Result α) : Asking α :=
  ExceptT.mk fun asked => (answer, asked ++ [request])

/-- Nothing is asked any more after an error. -/
theorem run_asking_bind {α β : Type} (x : Asking α) (f : α → Asking β) (asked : List ColumnRequest) :
    (x >>= f).run.run asked =
      match x.run.run asked with
      | (.ok a, asked) => (f a).run.run asked
      | (.error e, asked) => (.error e, asked) := by
  rw [ExceptT.run_bind, StateT.run_bind]
  rcases x.run.run asked with ⟨outcome, asked⟩
  cases outcome <;> rfl

namespace ColumnAnswers

variable {answers : ColumnAnswers} {names : List String} {e : Error}

/-- The columns of a list of names. -/
def ofNames (names : List String) : ColumnAnswers where
  count := .ok names.length
  name := columnName names

/-- The source that gives these answers. -/
def source (answers : ColumnAnswers) : ColumnSource (StateM (List ColumnRequest)) where
  count := ask .count answers.count
  name position := ask (.name position) (answers.name position)

/-- The requests for the count and for the names of so many columns. -/
def requests (k : ℕ) : List ColumnRequest :=
  .count :: (List.range' 1 k).map .name

/-- These are the names of all columns. -/
structure Has (answers : ColumnAnswers) (names : List String) : Prop where
  count : answers.count = .ok names.length
  name : ∀ position name, OneBased.get? names position = some name →
    answers.name position = .ok name

/-- The first answer that is an error is this one, after so many names have been asked for. -/
inductive FailsWith (answers : ColumnAnswers) (e : Error) : ℕ → Prop
  | count (failed : answers.count = .error e) : FailsWith answers e 0
  | name {count k : ℕ} (counted : answers.count = .ok count) (inside : k < count)
      (earlier : ∀ i < k, ∃ name, answers.name (i + 1) = .ok name)
      (failed : answers.name (k + 1) = .error e) : FailsWith answers e (k + 1)

theorem has_ofNames (names : List String) : (ofNames names).Has names := by
  refine ⟨rfl, fun position name hname => ?_⟩
  simp only [ofNames, columnName, hname]

/-- A source has names for all of its columns or fails. -/
theorem has_or_failsWith (answers : ColumnAnswers) :
    (∃ names, answers.Has names) ∨ ∃ e k, answers.FailsWith e k := by
  cases hcount : answers.count with
  | error e => exact .inr ⟨e, 0, .count hcount⟩
  | ok count =>
    by_cases hfails : ∃ k, k < count ∧ ∃ e, answers.name (k + 1) = .error e
    · classical
      obtain ⟨hinside, e, hfailed⟩ := Nat.find_spec hfails
      refine .inr ⟨e, _, .name hcount hinside (fun i hi => ?_) hfailed⟩
      have hmin := Nat.find_min hfails hi
      cases hname : answers.name (i + 1) with
      | ok name => exact ⟨name, rfl⟩
      | error e' => exact absurd ⟨Nat.lt_trans hi hinside, e', hname⟩ hmin
    · have hnames : ∀ i : Fin count, ∃ name, answers.name (i + 1) = .ok name := by
        intro i
        cases hname : answers.name (i + 1) with
        | ok name => exact ⟨name, rfl⟩
        | error e => exact absurd ⟨i, i.isLt, e, hname⟩ hfails
      choose name hname using hnames
      refine .inl ⟨List.ofFn name, by rw [hcount, List.length_ofFn], fun position other hother => ?_⟩
      cases position with
      | zero => cases hother
      | succ n =>
        rw [OneBased.get?_succ, List.getElem?_ofFn] at hother
        split at hother
        · next hlt => rw [hname ⟨n, hlt⟩, Option.some.inj hother]
        · cases hother

/-! ## Asking for the names -/

/-- One name is asked for, and then the others. -/
theorem run_mapM_cons (position : ℕ) (positions : List ℕ) (asked : List ColumnRequest) :
    ((position :: positions).mapM answers.source.name).run.run asked =
      match answers.name position with
      | .ok name =>
        let rest := (positions.mapM answers.source.name).run.run (asked ++ [.name position])
        (rest.1.map (name :: ·), rest.2)
      | .error e => (.error e, asked ++ [.name position]) := by
  have hask : (answers.source.name position).run.run asked =
      (answers.name position, asked ++ [.name position]) := rfl
  rw [List.mapM_cons, run_asking_bind, hask]
  cases answers.name position with
  | error e => rfl
  | ok name =>
    simp only
    rw [run_asking_bind]
    rcases (positions.mapM answers.source.name).run.run _ with ⟨outcome, asked⟩
    cases outcome <;> rfl

/-- Names that are all there are read one after another. -/
theorem run_mapM_of_ok {start : ℕ}
    (h : ∀ i name, names[i]? = some name → answers.name (start + i) = .ok name)
    (asked : List ColumnRequest) :
    ((List.range' start names.length).mapM answers.source.name).run.run asked =
      (.ok names, asked ++ (List.range' start names.length).map .name) := by
  induction names generalizing start asked with
  | nil => rw [List.length_nil, List.range'_zero, List.mapM_nil, List.map_nil, List.append_nil]; rfl
  | cons name names ih =>
    have hname : answers.name start = .ok name := h 0 name rfl
    have hnames : ∀ i other, names[i]? = some other → answers.name (start + 1 + i) = .ok other := by
      intro i other hother
      rw [Nat.add_right_comm]
      exact h (i + 1) other hother
    rw [List.length_cons, List.range'_succ, run_mapM_cons, hname]
    simp only
    rw [ih hnames]
    simp [Except.map]

/-- The first name that is not there is the last that is asked for. -/
theorem run_mapM_of_error {start length k : ℕ} (hinside : k < length)
    (hearlier : ∀ i < k, ∃ name, answers.name (start + i) = .ok name)
    (hfailed : answers.name (start + k) = .error e) (asked : List ColumnRequest) :
    ((List.range' start length).mapM answers.source.name).run.run asked =
      (.error e, asked ++ (List.range' start (k + 1)).map .name) := by
  induction k generalizing start length asked with
  | zero =>
    obtain ⟨length, rfl⟩ : ∃ n, length = n + 1 := ⟨length - 1, by omega⟩
    rw [Nat.add_zero] at hfailed
    rw [List.range'_succ, run_mapM_cons, hfailed]
    rfl
  | succ k ih =>
    obtain ⟨length, rfl⟩ : ∃ n, length = n + 1 := ⟨length - 1, by omega⟩
    obtain ⟨name, hname⟩ : ∃ name, answers.name start = .ok name := hearlier 0 k.succ_pos
    have hshift (i : ℕ) : start + (i + 1) = start + 1 + i := by omega
    have hnames : ∀ i < k, ∃ name, answers.name (start + 1 + i) = .ok name := by
      intro i hi
      rw [← hshift]
      exact hearlier (i + 1) (by omega)
    rw [hshift] at hfailed
    rw [List.range'_succ, run_mapM_cons, hname]
    simp only
    rw [ih (by omega) hnames hfailed, List.append_assoc, List.range'_succ (n := k + 1)]
    rfl

theorem run_names_of_has (h : answers.Has names) (asked : List ColumnRequest) :
    answers.source.names.run.run asked = (.ok names, asked ++ requests names.length) := by
  have hask : answers.source.count.run.run asked = (answers.count, asked ++ [.count]) := rfl
  have hnames : ∀ i name, names[i]? = some name → answers.name (1 + i) = .ok name := by
    intro i name hname
    rw [Nat.add_comm]
    exact h.name (i + 1) name hname
  rw [ColumnSource.names, run_asking_bind, hask, h.count]
  simp only
  rw [run_mapM_of_ok hnames, requests, List.append_assoc]
  rfl

theorem run_names_of_failsWith {k : ℕ} (h : answers.FailsWith e k) (asked : List ColumnRequest) :
    answers.source.names.run.run asked = (.error e, asked ++ requests k) := by
  have hask : answers.source.count.run.run asked = (answers.count, asked ++ [.count]) := rfl
  rw [ColumnSource.names, run_asking_bind, hask]
  cases h with
  | count failed =>
    rw [failed]
    rfl
  | name counted inside earlier failed =>
    rw [counted]
    simp only
    simp only [Nat.add_comm _ 1] at earlier failed
    rw [run_mapM_of_error inside earlier failed, requests, List.append_assoc]
    rw [Nat.add_comm]
    rfl

/-- The source has names or fails, and has no other names. -/
theorem Has.unique {names' : List String} (h : answers.Has names) (h' : answers.Has names') :
    names = names' := by
  have hrun := (run_names_of_has h []).symm.trans (run_names_of_has h' [])
  exact Except.ok.inj (congrArg Prod.fst hrun)

theorem Has.not_failsWith {k : ℕ} (h : answers.Has names) : ¬answers.FailsWith e k := by
  intro h'
  have hrun := (run_names_of_has h []).symm.trans (run_names_of_failsWith h' [])
  cases congrArg Prod.fst hrun

end ColumnAnswers

/-! ## What happens to an index -/

/-- What is done with an index, or with its source. -/
inductive IndexStep where
  | lookup (column : Identifier)
  | clear
  | replace (answers : ColumnAnswers)

/-- An index, the answers of the source that it asks, and what has been asked so far. -/
structure IndexUse where
  index : ColumnIndex
  answers : ColumnAnswers
  asked : List ColumnRequest

namespace IndexUse

/-- Nothing has been asked yet. -/
def start (answers : ColumnAnswers) : IndexUse :=
  ⟨.empty, answers, []⟩

/-- Looks a column up. -/
def lookup (used : IndexUse) (column : Identifier) : Result ℕ × IndexUse :=
  let ((found, index), asked) :=
    (used.index.find used.answers.source.names.run column).run used.asked
  (found, { used with index, asked })

/-- What a step leads to. -/
def step (used : IndexUse) : IndexStep → IndexUse
  | .lookup column => (used.lookup column).2
  | .clear => { used with index := .empty }
  | .replace answers => { used with answers }

/-- What steps lead to. -/
def run (used : IndexUse) (steps : List IndexStep) : IndexUse :=
  steps.foldl step used

variable {used : IndexUse} {names : List String}

theorem lookup_position (n : ℕ) : used.lookup (.position n) = (.ok n, used) := rfl

/-- An index that has read names answers from them. -/
theorem lookup_of_read (h : used.index = ⟨some (names.map foldName)⟩) (name : String) :
    used.lookup (.name name) = (ColumnIndex.search (names.map foldName) name, used) := by
  obtain ⟨index, answers, asked⟩ := used
  subst h
  rfl

/-- An index that has read nothing asks the source, and keeps the names that it has. -/
theorem lookup_of_empty_of_has (h : used.index = .empty) (hhas : used.answers.Has names)
    (name : String) : used.lookup (.name name) = (ColumnIndex.search (names.map foldName) name,
      ⟨⟨some (names.map foldName)⟩, used.answers,
        used.asked ++ ColumnAnswers.requests names.length⟩) := by
  obtain ⟨index, answers, asked⟩ := used
  subst h
  have hrun := ColumnAnswers.run_names_of_has hhas asked
  simp only [lookup, ColumnIndex.find, ColumnIndex.empty, StateT.run_bind, hrun]
  rfl

/-- If the source fails nothing is kept. -/
theorem lookup_of_empty_of_failsWith {e : Error} {k : ℕ} (h : used.index = .empty)
    (hfails : used.answers.FailsWith e k) (name : String) :
    used.lookup (.name name) =
      (.error e, { used with asked := used.asked ++ ColumnAnswers.requests k }) := by
  obtain ⟨index, answers, asked⟩ := used
  subst h
  have hrun := ColumnAnswers.run_names_of_failsWith hfails asked
  simp only [lookup, ColumnIndex.find, ColumnIndex.empty, StateT.run_bind, hrun]
  rfl

end IndexUse

/-! ## What has happened -/

/-- The first of these sources that does not fail has the names. -/
inductive FirstRead (names : List String) : List ColumnAnswers → Prop
  | here {answers : ColumnAnswers} {later : List ColumnAnswers} (has : answers.Has names) :
    FirstRead names (answers :: later)
  | later {answers : ColumnAnswers} {later : List ColumnAnswers} {e : Error} {k : ℕ}
    (fails : answers.FailsWith e k) (first : FirstRead names later) :
    FirstRead names (answers :: later)

/-- All of these sources fail. -/
def NoneRead (sources : List ColumnAnswers) : Prop :=
  ∀ answers ∈ sources, ∃ e k, answers.FailsWith e k

section

variable {names names' : List String} {sources : List ColumnAnswers} {answers : ColumnAnswers}

theorem FirstRead.unique (h : FirstRead names sources) (h' : FirstRead names' sources) :
    names = names' := by
  induction h with
  | here has =>
    cases h' with
    | here has' => exact has.unique has'
    | later fails first => exact absurd fails has.not_failsWith
  | later fails first ih =>
    cases h' with
    | here has => exact absurd fails has.not_failsWith
    | later fails' first' => exact ih first'

theorem FirstRead.not_noneRead (h : FirstRead names sources) : ¬NoneRead sources := by
  induction h with
  | here has =>
    intro hnone
    obtain ⟨e, k, hfails⟩ := hnone _ List.mem_cons_self
    exact has.not_failsWith hfails
  | later fails first ih =>
    exact fun hnone => ih fun answers hmem => hnone answers (List.mem_cons_of_mem _ hmem)

theorem FirstRead.concat (h : FirstRead names sources) (answers : ColumnAnswers) :
    FirstRead names (sources ++ [answers]) := by
  induction h with
  | here has => exact .here has
  | later fails first ih => exact .later fails ih

theorem NoneRead.concat_of_has (h : NoneRead sources) (hhas : answers.Has names) :
    FirstRead names (sources ++ [answers]) := by
  induction sources with
  | nil => exact .here hhas
  | cons first later ih =>
    obtain ⟨e, k, hfails⟩ := h first List.mem_cons_self
    exact .later hfails (ih fun answers hmem => h answers (List.mem_cons_of_mem _ hmem))

theorem NoneRead.concat_of_failsWith {e : Error} {k : ℕ} (h : NoneRead sources)
    (hfails : answers.FailsWith e k) : NoneRead (sources ++ [answers]) := by
  intro other hmem
  rcases List.mem_append.1 hmem with hmem | hmem
  · exact h other hmem
  · rw [List.mem_singleton.1 hmem]
    exact ⟨e, k, hfails⟩

end

/-- The source that there is, and the sources there were whenever a name was looked up since the index
was cleared. -/
structure Lookups where
  answers : ColumnAnswers
  sources : List ColumnAnswers

namespace Lookups

/-- Nothing has been looked up yet. -/
def start (answers : ColumnAnswers) : Lookups :=
  ⟨answers, []⟩

/-- What has happened when there is one more step. -/
def step (seen : Lookups) : IndexStep → Lookups
  | .lookup (.position _) => seen
  | .lookup (.name _) => { seen with sources := seen.sources ++ [seen.answers] }
  | .clear => { seen with sources := [] }
  | .replace answers => { seen with answers }

/-- What has happened in these steps. -/
def run (seen : Lookups) (steps : List IndexStep) : Lookups :=
  steps.foldl step seen

end Lookups

/-- The index has kept what has happened: the names of the first lookup that could read them, or
nothing if none could. -/
structure Keeps (used : IndexUse) (seen : Lookups) : Prop where
  answers : used.answers = seen.answers
  index : (NoneRead seen.sources ∧ used.index = .empty) ∨
    ∃ names, FirstRead names seen.sources ∧ used.index = ⟨some (names.map foldName)⟩

theorem keeps_start (answers : ColumnAnswers) : Keeps (.start answers) (.start answers) :=
  ⟨rfl, .inl ⟨nofun, rfl⟩⟩

/-- Every step keeps it. -/
theorem Keeps.step {used : IndexUse} {seen : Lookups} (h : Keeps used seen) (step : IndexStep) :
    Keeps (used.step step) (seen.step step) := by
  obtain ⟨hanswers, hindex⟩ := h
  cases step with
  | clear => exact ⟨hanswers, .inl ⟨nofun, rfl⟩⟩
  | replace answers => exact ⟨rfl, hindex⟩
  | lookup column =>
    cases column with
    | position n => exact ⟨hanswers, hindex⟩
    | name name =>
      rw [IndexUse.step, Lookups.step]
      obtain ⟨hnone, hempty⟩ | ⟨names, hfirst, hread⟩ := hindex
      · obtain ⟨names, hhas⟩ | ⟨e, k, hfails⟩ := used.answers.has_or_failsWith
        · rw [IndexUse.lookup_of_empty_of_has hempty hhas]
          exact ⟨hanswers, .inr ⟨names, hnone.concat_of_has (hanswers ▸ hhas), rfl⟩⟩
        · rw [IndexUse.lookup_of_empty_of_failsWith hempty hfails]
          exact ⟨hanswers, .inl ⟨hnone.concat_of_failsWith (hanswers ▸ hfails), hempty⟩⟩
      · rw [IndexUse.lookup_of_read hread]
        exact ⟨hanswers, .inr ⟨names, hfirst.concat seen.answers, hread⟩⟩

/-- So does a run. -/
theorem Keeps.run {used : IndexUse} {seen : Lookups} (h : Keeps used seen) (steps : List IndexStep) :
    Keeps (used.run steps) (seen.run steps) := by
  induction steps generalizing used seen with
  | nil => exact h
  | cons step rest ih => exact ih (h.step step)

/-! ## What is found -/

/-- A name stands for the last column that has it, whatever its letter case, and is not found if no
column has it. -/
inductive ColumnFound (names : List String) (name : String) : Result ℕ → Prop
  | last {position : ℕ} (named : LastNamed names name position) :
    ColumnFound names name (.ok position)
  | missing (unnamed : ∀ other ∈ names, foldName other ≠ foldName name) :
    ColumnFound names name (.error (.columnNotFound name))

theorem columnFound_search (names : List String) (name : String) :
    ColumnFound names name (ColumnIndex.search (names.map foldName) name) := by
  obtain ⟨position, hnamed, hfound⟩ | ⟨hunnamed, hmissing⟩ := ColumnIndex.search_cases names name
  · rw [hfound]
    exact .last hnamed
  · rw [hmissing]
    exact .missing hunnamed

/-- **What a column that is looked up stands for, whatever has happened before.** A position stands for
itself, and nothing is asked. A name stands for a column of the source that there was when a name was
first looked up, since the index was cleared, and the source did not fail; nothing is asked then. If
there was no such lookup the source is asked. It may fail, which is what the lookup answers, and the
index is as it was; else the name stands for one of its columns, and the names are kept. -/
theorem lookup_after_any_run (first : ColumnAnswers) (steps : List IndexStep) :
    let used := (IndexUse.start first).run steps
    let seen := (Lookups.start first).run steps
    (∀ n, used.lookup (.position n) = (.ok n, used)) ∧
    (∀ names, FirstRead names seen.sources → ∀ name, ∃ found, ColumnFound names name found ∧
      used.lookup (.name name) = (found, used)) ∧
    (NoneRead seen.sources → used.index = .empty ∧ ∀ name,
      (∃ e k, seen.answers.FailsWith e k ∧ used.lookup (.name name) =
        (.error e, { used with asked := used.asked ++ ColumnAnswers.requests k })) ∨
      ∃ names, seen.answers.Has names ∧ ∃ found, ColumnFound names name found ∧
        used.lookup (.name name) = (found, ⟨⟨some (names.map foldName)⟩, used.answers,
          used.asked ++ ColumnAnswers.requests names.length⟩)) ∧
    (NoneRead seen.sources ∨ ∃ names, FirstRead names seen.sources) := by
  intro used seen
  have hkeeps : Keeps used seen := (keeps_start first).run steps
  refine ⟨IndexUse.lookup_position, fun names hfirst name => ?_, fun hnone => ?_, ?_⟩
  · obtain ⟨hnone, -⟩ | ⟨names', hfirst', hread⟩ := hkeeps.index
    · exact absurd hnone hfirst.not_noneRead
    · obtain rfl := hfirst.unique hfirst'
      exact ⟨_, columnFound_search names name, IndexUse.lookup_of_read hread name⟩
  · obtain ⟨-, hempty⟩ | ⟨names, hfirst, -⟩ := hkeeps.index
    · refine ⟨hempty, fun name => ?_⟩
      rw [← hkeeps.answers]
      obtain ⟨names, hhas⟩ | ⟨e, k, hfails⟩ := used.answers.has_or_failsWith
      · exact .inr ⟨names, hhas, _, columnFound_search names name,
          IndexUse.lookup_of_empty_of_has hempty hhas name⟩
      · exact .inl ⟨e, k, hfails, IndexUse.lookup_of_empty_of_failsWith hempty hfails name⟩
    · exact absurd hnone hfirst.not_noneRead
  · obtain ⟨hnone, -⟩ | ⟨names, hfirst, -⟩ := hkeeps.index
    · exact .inl hnone
    · exact .inr ⟨names, hfirst⟩

/-- Names that have been read are kept when a source that fails takes the place of theirs, until the index
is cleared. -/
theorem names_kept_until_cleared :
    let names := ["Id", "NAME", "id"]
    let failing : ColumnAnswers := ⟨.error (.sequence .notExecuted), columnName []⟩
    let steps : List IndexStep := [.lookup (.name "name"), .replace failing]
    let used := (IndexUse.start (.ofNames names)).run steps
    FirstRead names ((Lookups.start (.ofNames names)).run steps).sources ∧
      used.lookup (.name "ID") = (.ok 3, used) ∧
      ((used.step .clear).lookup (.name "ID")).1 = .error (.sequence .notExecuted) := by
  intro names failing steps used
  have hfirst : FirstRead names ((Lookups.start (.ofNames names)).run steps).sources :=
    .here (ColumnAnswers.has_ofNames names)
  obtain ⟨-, hread, -⟩ := lookup_after_any_run (.ofNames names) steps
  obtain ⟨found, -, hlookup⟩ := hread names hfirst "ID"
  have hfound : (used.lookup (.name "ID")).1 = .ok 3 := by decide +kernel
  rw [hlookup] at hfound
  refine ⟨hfirst, ?_, rfl⟩
  rw [hlookup, ← hfound]

end PortableSql
