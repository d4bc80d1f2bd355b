import Mathlib.Data.List.DropRight
import TableQuery.Session

/-!
# Proofs/Session/LastSetting — a session keeps what was set last

All that a line can do to the query is one equation (`query_handle`): *reset* clears the query, and
any other line sets at most the part that its own command is for.  A whole session then leaves each
part at the **last value** that its command has set, of the lines behind the last *reset*
(`after_eq_lastSettings`), and lines that are refused or set nothing may as well be left out
(`after_filter_of_idle`).
-/

namespace TableQuery.Session

open TableQuery.Number TableQuery.Text

/-- The query behind some lines. -/
def after (resource : Resource) (query : Query) (lines : List String) : Query :=
  lines.foldl (fun query line => (handle resource query line).query) query

/-- The command of a line. -/
def commandOf (line : String) : String := (split line).1

/-- The argument of a line. -/
def argumentOf (line : String) : String := (split line).2

/-- The number that an argument denotes. -/
def number? (arg : String) : Option Nat := (readUnsigned arg).toOption

/-- The flag that an argument stands for. -/
def flag? (arg : String) : Option Bool := some (eqIgnoreCase arg "on")

/-- The commands that set a part of the query or clear all of it. -/
def settingCommands : List String := ["filter", "orderby", "top", "skip", "count", "reset"]

/-- Whether the command of a line is one that sets something. -/
def isSetting (line : String) : Bool := settingCommands.contains (commandOf line)

/-- Whether a line is refused: its command asks for a number and its argument is none. -/
def isRefused (line : String) : Bool :=
  ["top", "skip"].contains (commandOf line) && (number? (argumentOf line)).isNone

/-- The lines behind the last *reset*. -/
def sinceReset (lines : List String) : List String :=
  lines.rtakeWhile fun line => commandOf line != "reset"

/-- What a line sets by a given command, if its argument stands for a value. -/
def setting? {α : Type} (command : String) (value : String → Option α) (line : String) : Option α :=
  if commandOf line = command then value (argumentOf line) else none

/-- **The last value that a command has set**, of the lines behind the last *reset*. -/
def lastSetting? {α : Type} (command : String) (value : String → Option α) (lines : List String) :
    Option α :=
  ((sinceReset lines).filterMap (setting? command value)).getLast?

/-- The query that holds the last values, and defaults where nothing was set. -/
def lastSettings (lines : List String) : Query where
  top := (lastSetting? "top" number? lines).getD 0
  skip := (lastSetting? "skip" number? lines).getD 0
  count := (lastSetting? "count" flag? lines).getD false
  orderBy := (lastSetting? "orderby" some lines).getD ""
  select := ""
  search := ""
  filter := (lastSetting? "filter" some lines).getD ""

/-! ## One line -/

theorem query_setsNumber (query : Query) (set : Nat → Query) {n : Nat} (h : set n = query)
    (name arg : String) :
    (setsNumber query name arg set).query = set ((number? arg).getD n) := by
  unfold setsNumber number?
  cases readUnsigned arg with
  | ok m => rfl
  | error e => exact h.symm

theorem failed_setsNumber_iff (query : Query) (name arg : String) (set : Nat → Query) :
    (∃ message, (setsNumber query name arg set).verdict = .failed message) ↔
      number? arg = none := by
  unfold setsNumber number?
  cases readUnsigned arg <;> simp [sets, Except.toOption]

/-- **All that a line can do to the query**: clear it, or set the part that its command is for. -/
theorem query_handle (resource : Resource) (query : Query) (line : String) :
    (handle resource query line).query =
      if commandOf line = "reset" then {}
      else { query with
        top := (setting? "top" number? line).getD query.top
        skip := (setting? "skip" number? line).getD query.skip
        count := (setting? "count" flag? line).getD query.count
        orderBy := (setting? "orderby" some line).getD query.orderBy
        filter := (setting? "filter" some line).getD query.filter } := by
  have htop := query_setsNumber query (fun n => { query with top := n }) rfl "top"
    (argumentOf line)
  have hskip := query_setsNumber query (fun n => { query with skip := n }) rfl "skip"
    (argumentOf line)
  change (obey resource query (commandOf line) (argumentOf line)).query = _
  unfold obey
  split <;> simp_all [sets, shows, setting?, flag?]

/-- **Only numbers are refused.** -/
theorem failed_handle_iff (resource : Resource) (query : Query) (line : String) :
    (∃ message, (handle resource query line).verdict = .failed message) ↔
      isRefused line = true := by
  change (∃ message, (obey resource query (commandOf line) (argumentOf line)).verdict = _) ↔ _
  unfold obey isRefused
  split <;> simp_all [sets, shows, failed_setsNumber_iff]

/-- **A line that is refused or sets nothing leaves the query as it was.** -/
theorem query_handle_of_idle (resource : Resource) (query : Query) {line : String}
    (h : isRefused line = true ∨ isSetting line = false) :
    (handle resource query line).query = query := by
  rw [query_handle]
  rcases h with h | h
  · simp only [isRefused, Bool.and_eq_true, List.contains_iff_mem, List.mem_cons,
      List.not_mem_nil, or_false, Option.isNone_iff_eq_none] at h
    obtain ⟨hcommand | hcommand, hnumber⟩ := h <;> simp [setting?, hcommand, hnumber]
  · simp_all [isSetting, settingCommands, setting?]

/-! ## Whole sessions -/

theorem after_concat (resource : Resource) (query : Query) (lines : List String) (line : String) :
    after resource query (lines ++ [line])
      = (handle resource (after resource query lines) line).query := by
  rw [after, List.foldl_append]
  rfl

/-- A line either cuts off what was set before it, or is the last to set something itself. -/
theorem lastSetting?_concat {α : Type} (command : String) (value : String → Option α)
    (lines : List String) (line : String) :
    lastSetting? command value (lines ++ [line]) =
      if commandOf line = "reset" then none
      else (setting? command value line).or (lastSetting? command value lines) := by
  unfold lastSetting? sinceReset
  rw [List.rtakeWhile_concat]
  by_cases hreset : commandOf line = "reset"
  · simp [hreset]
  · rw [if_pos (by simpa using hreset), if_neg hreset, List.filterMap_append, List.getLast?_append]
    cases hsetting : setting? command value line <;> simp [hsetting]

/-- **A session leaves each part of the query at the last value that was set.** -/
theorem after_eq_lastSettings (resource : Resource) (lines : List String) :
    after resource {} lines = lastSettings lines := by
  induction lines using List.reverseRecOn with
  | nil => rfl
  | append_singleton lines line ih =>
    rw [after_concat, query_handle, ih]
    unfold lastSettings
    simp only [lastSetting?_concat]
    split
    · rfl
    · simp only [Option.getD_or]

/-- **Idle lines may be left out.** -/
theorem after_filter_of_idle (resource : Resource) {keeps : String → Bool}
    (h : ∀ line, keeps line = false → isRefused line = true ∨ isSetting line = false)
    (query : Query) (lines : List String) :
    after resource query (lines.filter keeps) = after resource query lines := by
  induction lines generalizing query with
  | nil => rfl
  | cons line lines ih =>
    cases hkeeps : keeps line with
    | true =>
      rw [List.filter_cons_of_pos hkeeps]
      exact ih _
    | false =>
      rw [List.filter_cons_of_neg (by simp [hkeeps]), ih]
      change _ = after resource (handle resource query line).query lines
      rw [query_handle_of_idle resource query (h line hkeeps)]

/-- **A session keeps what was set last, and nothing else.**  A line fails exactly if it asks for a
number and gets none; such a line leaves the query as it was, and so does every line whose command
sets nothing.  Behind any lines the query holds the last value set by each command since the last
*reset*, so leaving out the lines that fail or set nothing makes no difference. -/
theorem session_keeps_last_settings (resource : Resource) (lines : List String) :
    (∀ query line, (∃ message, (handle resource query line).verdict = .failed message) ↔
      isRefused line = true) ∧
    (∀ query line message, (handle resource query line).verdict = .failed message →
      (handle resource query line).query = query) ∧
    (∀ query line, isSetting line = false → (handle resource query line).query = query) ∧
    after resource {} lines = lastSettings lines ∧
    after resource {} (lines.filter fun line => isSetting line && !isRefused line)
      = after resource {} lines := by
  refine ⟨failed_handle_iff resource, ?_, ?_, after_eq_lastSettings resource lines, ?_⟩
  · intro query line message hfailed
    exact query_handle_of_idle resource query
      (Or.inl ((failed_handle_iff resource query line).mp ⟨message, hfailed⟩))
  · intro query line hsetting
    exact query_handle_of_idle resource query (Or.inr hsetting)
  · refine after_filter_of_idle resource (fun line hkeeps => ?_) {} lines
    cases hsetting : isSetting line with
    | false => exact Or.inr rfl
    | true => exact Or.inl (by simpa [hsetting] using hkeeps)

/-- A number that is none is refused in the middle of a session; what was set before the *reset* is
gone, and of two numbers set behind it the second one counts. -/
theorem last_settings_of_mixed_session :
    (handle .sample { top := 5 } "top five").verdict
        = .failed "top expects a number: invalid digit found in string" ∧
      (handle .sample { top := 5 } "top five").query = { top := 5 } ∧
      after .sample {} ["filter a eq 1", "reset", "top 5", "top five", "count ON", "quit", "top +7"]
        = { top := 7, count := true } := by
  have hfailed : (handle .sample { top := 5 } "top five").verdict
      = .failed "top expects a number: invalid digit found in string" := by decide
  refine ⟨hfailed, (session_keeps_last_settings .sample []).2.1 _ _ _ hfailed, ?_⟩
  rw [(session_keeps_last_settings .sample _).2.2.2.1]
  decide

end TableQuery.Session
