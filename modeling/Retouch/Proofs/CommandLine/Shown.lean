import Retouch.Proofs.CommandLine.Talk
import Retouch.Proofs.Diff.Colours
import Retouch.Proofs.Files.Writable

/-! The text of a report.
A report is made of whole lines. The line that tells of success has a sign of its own, with which no
other line begins, as long as nothing that the lines quote breaks them. -/
namespace Retouch

namespace Bytes

def Whole (t : Bytes) : Prop := t = [] ∨ ∃ b, t = b ++ [0x0A]

theorem lines_append_feed (b rest : Bytes) :
    lines (b ++ 0x0A :: rest) = lines (b ++ [0x0A]) ++ lines rest := by
  induction b with
  | nil => rfl
  | cons x b ih =>
    rw [List.cons_append, List.cons_append, lines_cons, lines_cons, ih]
    split
    · rfl
    · cases first : lines (b ++ [0x0A]) with
      | nil =>
        have text := flatten_lines (b ++ [0x0A])
        rw [first] at text
        simp at text
      | cons line more => rfl

theorem Whole.append {t u : Bytes} (whole : Whole t) (behind : Whole u) : Whole (t ++ u) := by
  rcases behind with rfl | ⟨b, rfl⟩
  · rwa [List.append_nil]
  · exact .inr ⟨t ++ b, (List.append_assoc _ _ _).symm⟩

theorem Whole.lines_append {t : Bytes} (whole : Whole t) (rest : Bytes) :
    lines (t ++ rest) = lines t ++ lines rest := by
  rcases whole with rfl | ⟨b, rfl⟩
  · rfl
  · rw [List.append_assoc, List.singleton_append, lines_append_feed]

theorem lines_row {row : Bytes} (free : 0x0A ∉ row) : lines (row ++ [0x0A]) = [row ++ [0x0A]] :=
  Bytes.lines_append free []

end Bytes

/-! What is quoted in a line does not break it. -/

section Quoted

variable {b : Bytes}

theorem Style.free_apply (s : Style) (colours : Bool) (free : 0x0A ∉ b) :
    0x0A ∉ s.apply colours b := by
  have codes : 0x0A ∉ Bytes.ofString s.codes.1 ∧ 0x0A ∉ Bytes.ofString s.codes.2 := by
    cases s <;> decide
  cases colours with
  | false => exact free
  | true => simp [apply, free, codes]

theorem Console.free_padded (width : Nat) (free : 0x0A ∉ b) : 0x0A ∉ Console.padded width b := by
  simp [Console.padded, free]

theorem Bytes.free_ofNat (n : Nat) : 0x0A ∉ Bytes.ofNat n := fun member =>
  absurd (Bytes.digit_of_mem_ofNat member) (by decide)

theorem Bytes.free_ofInt (v : Int) : 0x0A ∉ Bytes.ofInt v := by
  cases v with
  | ofNat n => exact Bytes.free_ofNat n
  | negSucc n => simp [Bytes.ofInt, Bytes.free_ofNat]

theorem Path.free_base (free : 0x0A ∉ b) : 0x0A ∉ Path.base b := by
  unfold base
  split
  · decide
  · dsimp only
    split
    · decide
    · intro member
      rw [split, Bytes.splitLast, List.mem_reverse] at member
      have stripped := List.mem_reverse.mp (List.takeWhile_subset _ member)
      rw [Bytes.trimRight, List.mem_reverse] at stripped
      exact free (List.mem_reverse.mp (List.dropWhile_subset _ stripped))

theorem Config.free_origin {c : Config} (free : 0x0A ∉ Path.base c.location) : 0x0A ∉ c.origin := by
  have words : 0x0A ∉ Bytes.ofString " built-in rules" ∧ 0x0A ∉ Bytes.ofString " rules from " := by
    decide
  unfold origin
  split <;> simp [Bytes.free_ofNat, words, free]

theorem Console.free_ruleStatus (r : RuleOutcome) : 0x0A ∉ Console.ruleStatus r := by
  unfold ruleStatus
  split
  · decide
  · split
    · have words : 0x0A ∉ Bytes.ofString "REPLACED [" ∧ 0x0A ∉ Bytes.ofString "]" := by decide
      simp [Bytes.free_ofInt, words]
    · decide

theorem Console.free_ruleLine (colours : Bool) {r : RuleOutcome} (free : 0x0A ∉ r.name) :
    0x0A ∉ Console.ruleLine colours r := by
  have symbol : 0x0A ∉ Bytes.ofString (ruleSymbol r).1 := by
    unfold ruleSymbol
    split
    · decide
    · split <;> decide
  have blank : 0x0A ∉ Bytes.ofString " " := by decide
  simp only [ruleLine, List.mem_append, not_or]
  refine ⟨⟨⟨⟨⟨?_, ?_⟩, blank⟩, ?_⟩, blank⟩, ?_⟩
  · simp
  · exact Style.free_apply _ colours symbol
  · exact Console.free_padded nameWidth free
  · exact Style.free_apply _ colours (Console.free_padded statusWidth (free_ruleStatus r))

end Quoted

namespace CommandLine

/-! What a transformation shows. -/

def opening (colours : Bool) (c : Config) (o : Operation) : List Output :=
  [Console.header colours c.origin,
    (Console.start.startTarget colours ⟨o.target, o.rules.length, o.dryRun⟩).2]

def reported (colours : Bool) (r : Result) : List Output :=
  match r.replacement with
  | none => []
  | some p =>
    (r.skipped.flatMap fun name => [(Console.start.rule colours ⟨name, 0, true⟩).2]) ++
      ((p.rules.flatMap fun c => [(Console.start.rule colours ⟨c.name, c.hits, false⟩).2]) ++
        p.unmatched.flatMap fun name =>
          [Console.notice colours .warning ("rule " ++ name ++ " matched nothing")])

/-- What is shown at the end of a run without faults. -/
def closing (colours dryRun : Bool) (r : Result) : List Output :=
  if dryRun then
    if !r.isModified then [Console.notice colours .info ("No changes for " ++ Path.base r.target)]
    else [Console.newline, Console.diff colours r.diff, Console.newline] ++
      [Console.notice colours .info ("Dry run, " ++ Path.base r.target ++ " was not written")]
  else
    (if r.backupPath ≠ [] then [Console.notice colours .info ("Original kept at " ++ r.backupPath)]
      else []) ++
      [Console.notice colours .success ("Successfully updated loops in " ++ Path.base r.target)]

theorem tells_report (r : Result) : Tells (report r) fun colours => reported colours r := by
  unfold report reported
  cases r.replacement with
  | none => exact Tells.pure
  | some p =>
    have skipped := Tells.forIn r.skipped fun name => Tells.rule ⟨name, 0, true⟩
    have applied := Tells.forIn p.rules fun c => Tells.rule ⟨c.name, c.hits, false⟩
    have warned := Tells.forIn p.unmatched fun name =>
      Tells.notice .warning ("rule " ++ name ++ " matched nothing")
    exact skipped.bind (applied.bind warned)

theorem tells_conclude (dryRun : Bool) (r : Result) :
    Tells (conclude dryRun r) fun colours => closing colours dryRun r := by
  unfold conclude closing
  dsimp only
  cases dryRun with
  | true =>
    cases r.isModified with
    | false => exact Tells.notice _ _
    | true => exact (Tells.diff _).bind (Tells.notice _ _)
  | false =>
    simp only [Bool.false_eq_true, if_false]
    by_cases none : r.backupPath = []
    · simp only [none, ne_eq, not_true_eq_false, if_false]
      exact Tells.notice _ _
    · simp only [none, ne_eq, not_false_eq_true, if_true]
      exact (Tells.notice _ _).bind (Tells.notice _ _)

/-! The lines of a closing, byte by byte. -/

def successLine (colours : Bool) (name : Bytes) : Bytes :=
  if colours then "✅ \x1b[32mSuccessfully updated loops in " ++ name ++ "\x1b[0m"
  else "✅ Successfully updated loops in " ++ name

def infoLine (colours : Bool) (message : Bytes) : Bytes :=
  if colours then "ℹ️  \x1b[36m" ++ message ++ "\x1b[0m" else "ℹ️  " ++ message

def keptLine (colours : Bool) (backup : Bytes) : Bytes :=
  if backup = [] then [] else infoLine colours ("Original kept at " ++ backup) ++ [0x0A]

theorem text_success (colours : Bool) (name : Bytes) :
    (Console.notice colours .success ("Successfully updated loops in " ++ name)).text =
      successLine colours name ++ [0x0A] := by
  have plain : Bytes.ofString "✅ Successfully updated loops in " =
      "✅ " ++ Bytes.ofString "Successfully updated loops in " := by decide +kernel
  have green : Bytes.ofString "✅ \x1b[32mSuccessfully updated loops in " =
      "✅ " ++ ("\x1b[32m" ++ Bytes.ofString "Successfully updated loops in ") := by decide +kernel
  cases colours with
  | false =>
    rw [successLine, if_neg Bool.false_ne_true, plain, Console.notice, Style.apply,
      if_neg Bool.false_ne_true, List.append_assoc]
    rfl
  | true =>
    rw [successLine, if_pos rfl, green, Console.notice, Style.apply, if_pos rfl]
    simp only [List.append_assoc]
    rfl

theorem text_info (colours : Bool) (message : Bytes) :
    (Console.notice colours .info message).text = infoLine colours message ++ [0x0A] := by
  have cyan : Bytes.ofString "ℹ️  \x1b[36m" = "ℹ️  " ++ Bytes.ofString "\x1b[36m" := by
    decide +kernel
  cases colours with
  | false => rfl
  | true =>
    rw [infoLine, if_pos rfl, cyan, Console.notice, Style.apply, if_pos rfl]
    simp only [List.append_assoc]
    rfl

theorem text_closing_wet (colours : Bool) (r : Result) :
    shownText (closing colours false r) = keptLine colours r.backupPath ++
      (successLine colours (Path.base r.target) ++ [0x0A]) := by
  rw [← text_success, keptLine, ← text_info]
  by_cases none : r.backupPath = []
  · simp [closing, shownText, none]
  · simp [closing, shownText, none]

theorem text_closing_same (colours : Bool) {r : Result} (same : r.isModified = false) :
    shownText (closing colours true r) =
      infoLine colours ("No changes for " ++ Path.base r.target) ++ [0x0A] := by
  rw [← text_info]
  simp [closing, shownText, same]

theorem text_closing_changed (colours : Bool) {r : Result} (changed : r.isModified = true) :
    shownText (closing colours true r) = 0x0A :: ((Console.diff colours r.diff).text ++ 0x0A ::
      (infoLine colours ("Dry run, " ++ Path.base r.target ++ " was not written") ++ [0x0A])) := by
  rw [← text_info]
  simp [closing, shownText, changed, Console.newline]

/-! The sign of success. -/

def tick : Bytes := "✅"

/-- A text of whole lines, of which none begins with the sign of success. -/
structure Unsigned (t : Bytes) : Prop where
  whole : t.Whole
  other : ∀ line ∈ t.lines, tick.isPrefixOf line = false

namespace Unsigned

theorem nil : Unsigned [] := ⟨.inl rfl, by simp [Bytes.lines]⟩

theorem append {t u : Bytes} (first : Unsigned t) (second : Unsigned u) : Unsigned (t ++ u) := by
  refine ⟨first.whole.append second.whole, ?_⟩
  rw [first.whole.lines_append]
  intro line member
  rcases List.mem_append.mp member with before | behind
  · exact first.other line before
  · exact second.other line behind

theorem flatMap {α : Type} {xs : List α} {text : α → Bytes} (each : ∀ x ∈ xs, Unsigned (text x)) :
    Unsigned (xs.flatMap text) := by
  induction xs with
  | nil => exact nil
  | cons x xs ih =>
    rw [List.flatMap_cons]
    apply (each x List.mem_cons_self).append
    exact ih fun y member => each y (List.mem_cons_of_mem _ member)

theorem row {r : Bytes} (free : 0x0A ∉ r) (other : tick.isPrefixOf (r ++ [0x0A]) = false) :
    Unsigned (r ++ [0x0A]) := by
  refine ⟨.inr ⟨r, rfl⟩, ?_⟩
  rw [Bytes.lines_row free]
  simpa using other

theorem blank : Unsigned [0x0A] := row (r := []) List.not_mem_nil rfl

end Unsigned

theorem unsigned_info (colours : Bool) {message : Bytes} (free : 0x0A ∉ message) :
    Unsigned (infoLine colours message ++ [0x0A]) := by
  have codes : 0x0A ∉ Bytes.ofString "ℹ️  \x1b[36m" ∧ 0x0A ∉ Bytes.ofString "ℹ️  " ∧
      0x0A ∉ Bytes.ofString "\x1b[0m" := by decide
  cases colours with
  | false => exact .row (by simp [infoLine, free, codes]) rfl
  | true => exact .row (by simp [infoLine, free, codes]) rfl

theorem unsigned_warning (colours : Bool) {message : Bytes} (free : 0x0A ∉ message) :
    Unsigned (Console.notice colours .warning message).text := by
  have symbol : 0x0A ∉ Bytes.ofString Console.Notice.warning.symbol := by decide
  apply Unsigned.row
  · simp [symbol, Style.free_apply _ colours free]
  · rfl

theorem unsigned_rule (colours : Bool) {r : RuleOutcome} (free : 0x0A ∉ r.name) :
    Unsigned (Console.start.rule colours r).2.text :=
  .row (Console.free_ruleLine colours free) rfl

theorem unsigned_diff (colours : Bool) {a b : Bytes} (differ : a ≠ b) :
    Unsigned (Console.diff colours (Diff.render a b)).text := by
  obtain ⟨rows, traced, _, plain, shown⟩ := Diff.text_diff_render differ
  rw [shown]
  apply Unsigned.flatMap
  intro r member
  obtain ⟨line, marked⟩ := traced.marked r member
  have free := plain r member
  cases colours with
  | false =>
    apply Unsigned.row free
    rw [← marked]
    cases r.1 <;> rfl
  | true =>
    apply Unsigned.row
    · rw [Diff.Edit.shown, if_pos rfl, Diff.Edit.coloured_eq]
      exact Style.free_apply _ true free
    · cases r.1 <;> rfl

/-- Nothing that a report quotes holds a line feed: neither the name of the rule file nor the path
of the target nor the name of a rule. -/
structure Unbroken (c : Config) (o : Operation) : Prop where
  origin : 0x0A ∉ Path.base c.location
  target : 0x0A ∉ o.target
  names : ∀ r ∈ o.rules, 0x0A ∉ r.name

theorem unsigned_header (colours : Bool) {message : Bytes} (free : 0x0A ∉ message) :
    Unsigned (Console.header colours message).text := by
  have title : 0x0A ∉ Style.boldCyan.apply colours "reshape" :=
    Style.free_apply _ colours (by decide)
  have words : 0x0A ∉ Bytes.ofString " " ∧ 0x0A ∉ Bytes.ofString "• " := by decide
  have origin : 0x0A ∉ Style.faint.apply colours ("• " ++ message) :=
    Style.free_apply _ colours (by simp [words, free])
  have line : Unsigned (Style.boldCyan.apply colours "reshape" ++ Bytes.ofString " " ++
      Style.faint.apply colours ("• " ++ message) ++ [0x0A]) := by
    apply Unsigned.row
    · simp [title, words, origin]
    · cases colours <;> rfl
  have text := (Unsigned.blank.append line).append Unsigned.blank
  simp only [List.append_assoc] at text
  simp only [Console.header, List.append_assoc]
  exact text

theorem unsigned_startTarget (colours : Bool) {t : Target} (free : 0x0A ∉ t.path) :
    Unsigned (Console.start.startTarget colours t).2.text := by
  have symbols : 0x0A ∉ Bytes.ofString "◆" ∧ 0x0A ∉ Bytes.ofString " " ∧
      0x0A ∉ Bytes.ofString "•" := by
    decide
  have modes : 0x0A ∉ Bytes.ofString "dry run" ∧ 0x0A ∉ Bytes.ofString "apply" := by decide
  apply Unsigned.row
  · have mode : 0x0A ∉ if t.dryRun then Bytes.ofString "dry run" else "apply" := by
      cases t.dryRun
      · exact modes.2
      · exact modes.1
    simp [symbols, Style.free_apply _ colours, free, mode]
  · cases colours <;> rfl

theorem unsigned_opening (colours : Bool) {c : Config} {o : Operation} (unbroken : Unbroken c o) :
    Unsigned (shownText (opening colours c o)) := by
  rw [opening, shownText, List.flatMap_cons, List.flatMap_singleton]
  exact (unsigned_header colours (Config.free_origin unbroken.origin)).append
    (unsigned_startTarget colours unbroken.target)

theorem unsigned_reported (colours : Bool) {r : Result} (skipped : ∀ name ∈ r.skipped, 0x0A ∉ name)
    (applied : ∀ p, r.replacement = some p → ∀ c ∈ p.rules, 0x0A ∉ c.name) :
    Unsigned (shownText (reported colours r)) := by
  have words : 0x0A ∉ Bytes.ofString "rule " ∧ 0x0A ∉ Bytes.ofString " matched nothing" := by decide
  unfold reported
  cases replaced : r.replacement with
  | none => exact .nil
  | some p =>
    have named := applied p replaced
    simp only [shownText, List.flatMap_append, List.flatMap_assoc, List.flatMap_singleton]
    apply Unsigned.append
    · exact .flatMap fun name member => unsigned_rule colours (skipped name member)
    · apply Unsigned.append
      · exact .flatMap fun c member => unsigned_rule colours (named c member)
      · apply Unsigned.flatMap
        intro name member
        apply unsigned_warning
        obtain ⟨c, inside, rfl⟩ := List.mem_map.mp member
        simp [words, named c (List.mem_filter.mp inside).1]

theorem unsigned_closing_dry (colours : Bool) {r : Result} (free : 0x0A ∉ r.target)
    (diff : r.isModified = true → Unsigned (Console.diff colours r.diff).text) :
    Unsigned (shownText (closing colours true r)) := by
  have words : 0x0A ∉ Bytes.ofString "No changes for " ∧ 0x0A ∉ Bytes.ofString "Dry run, " ∧
      0x0A ∉ Bytes.ofString " was not written" := by decide
  have name := Path.free_base free
  cases modified : r.isModified with
  | false =>
    rw [text_closing_same colours modified]
    exact unsigned_info colours (by simp [words, name])
  | true =>
    rw [text_closing_changed colours modified]
    have note : 0x0A ∉ Bytes.ofString "Dry run, " ++ Path.base r.target ++ " was not written" := by
      simp [words, name]
    exact Unsigned.blank.append
      ((diff modified).append (Unsigned.blank.append (unsigned_info colours note)))

/-- Behind whole lines, the line of success is one of the lines. -/
theorem successLine_mem_lines (colours : Bool) {t name : Bytes} (whole : t.Whole)
    (free : 0x0A ∉ name) :
    successLine colours name ++ [0x0A] ∈
      Bytes.lines (t ++ (successLine colours name ++ [0x0A])) := by
  have codes : 0x0A ∉ Bytes.ofString "✅ \x1b[32mSuccessfully updated loops in " ∧
      0x0A ∉ Bytes.ofString "✅ Successfully updated loops in " ∧
      0x0A ∉ Bytes.ofString "\x1b[0m" := by
    decide +kernel
  have one : 0x0A ∉ successLine colours name := by
    cases colours <;> simp [successLine, codes, free]
  rw [whole.lines_append, Bytes.lines_row one]
  simp

theorem Unsigned.not_success {t : Bytes} (unsigned : Unsigned t) (colours : Bool) (name : Bytes) :
    successLine colours name ++ [0x0A] ∉ t.lines := by
  intro member
  have signed : tick.isPrefixOf (successLine colours name ++ [0x0A]) = true := by
    cases colours <;> rfl
  rw [unsigned.other _ member] at signed
  cases signed

end CommandLine

end Retouch
