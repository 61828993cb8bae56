import Retouch.Preset
import Retouch.Proofs.Operation.Joined
import Retouch.Proofs.Pattern.Marker
import Retouch.Proofs.Rule.Idempotence

/-! The built-in rules leave nothing to do.
Both replacements name the new element type early on. No template has this word, so no occurrence
runs over it, and none can start behind it: a second run finds nothing in any file. -/
namespace Retouch.Preset

open CodePoint Regexp

theorem ofString_eq (s : String) : Bytes.ofString s = s.toByteArray.data.toList := by
  rw [Bytes.ofString, ← String.utf8Encode_toList, List.utf8Encode]
  simp

theorem ofLines_eq (lines : List String) :
    ofLines lines =
      ([0x0A] : Bytes).intercalate (lines.map fun s => s.toByteArray.data.toList) := by
  rw [ofLines, funext ofString_eq]

/-! The templates. -/

/-- What a template has to be like to be compiled and looked for byte by byte. -/
structure Plain (source : Bytes) : Prop where
  nonempty : source.tokens ≠ []
  valid : ∀ t ∈ source.tokens, isValid t = true
  small : (Pattern.templateExpression source.tokens).length ≤ maxSize
  clean : ∀ t ∈ source.tokens, replacement ∉ values t

instance (source : Bytes) : Decidable (Plain source) :=
  decidable_of_iff
    (source.tokens ≠ [] ∧ (∀ t ∈ source.tokens, isValid t = true) ∧
      (Pattern.templateExpression source.tokens).length ≤ maxSize ∧
      ∀ t ∈ source.tokens, replacement ∉ values t)
    ⟨fun ⟨nonempty, valid, small, clean⟩ => ⟨nonempty, valid, small, clean⟩,
      fun ⟨nonempty, valid, small, clean⟩ => ⟨nonempty, valid, small, clean⟩⟩

def templates : List Bytes := [hostListingsSearch, myListingsSearch]

def replacements : List Bytes := [hostListingsReplacement, myListingsReplacement]

theorem plain_templates : ∀ source ∈ templates, Plain source := by
  simp only [templates, hostListingsSearch, myListingsSearch, ofLines_eq]
  decide +kernel

theorem hostListings_mem : hostListingsSearch ∈ templates := List.mem_cons_self

theorem myListings_mem : myListingsSearch ∈ templates := List.mem_cons_of_mem _ List.mem_cons_self

def hostRule (p : Pattern) : Rule := ⟨"host_listings", some p, hostListingsReplacement, "**/*.rs"⟩

def myRule (q : Pattern) : Rule := ⟨"my_listings", some q, myListingsReplacement, "**/*.rs"⟩

namespace Plain

variable {source : Bytes} (plain : Plain source)
include plain

theorem known : ∀ t ∈ source.tokens, Token t :=
  fun t member => ⟨Bytes.tokens_ne_nil member, Bytes.solid_tokens source t member,
    plain.valid t member⟩

theorem accepted : ∃ p, Pattern.compile .whitespace source = .ok p :=
  compile_template_accepts plain.nonempty plain.valid plain.small

theorem seeks {p : Pattern} (accepted : Pattern.compile .whitespace source = .ok p) {r : Rule}
    (pattern : r.pattern = some p) : r.Seeks (Spells source.tokens) :=
  (Rule.looksFor_of_compile accepted plain.clean pattern).seeks

theorem oneEnd : OneEnd (Spells source.tokens) :=
  occursAt_unique plain.nonempty plain.known plain.clean

end Plain

theorem compileNamed_whitespace (source : Bytes) :
    Pattern.compileNamed "whitespace" source = Pattern.compile .whitespace source := by
  have kind : Pattern.Kind.ofName? "whitespace" = some .whitespace := by decide
  rw [Pattern.compileNamed, kind]

theorem compileEntries_cons {r : RuleEntry} {rest : List RuleEntry} {p : Pattern}
    {rules : List Rule} (first : Pattern.compileNamed r.kind r.search = .ok p)
    (others : Config.compileEntries rest = .ok rules) :
    Config.compileEntries (r :: rest) =
      .ok (⟨r.name, some p, r.replacement, r.files⟩ :: rules) := by
  rw [Config.compileEntries, first]
  dsimp only
  rw [others]

theorem compile_listings :
    ∃ p q, Pattern.compile .whitespace hostListingsSearch = .ok p ∧
      Pattern.compile .whitespace myListingsSearch = .ok q ∧
      listings.compile = .ok [hostRule p, myRule q] := by
  obtain ⟨p, first⟩ := (plain_templates _ hostListings_mem).accepted
  obtain ⟨q, second⟩ := (plain_templates _ myListings_mem).accepted
  have host := (compileNamed_whitespace hostListingsSearch).trans first
  have my := (compileNamed_whitespace myListingsSearch).trans second
  exact ⟨p, q, first, second, compileEntries_cons host (compileEntries_cons my rfl)⟩

theorem hostRule_seeks {p : Pattern}
    (accepted : Pattern.compile .whitespace hostListingsSearch = .ok p) :
    (hostRule p).Seeks (Spells hostListingsSearch.tokens) :=
  (plain_templates _ hostListings_mem).seeks accepted rfl

theorem myRule_seeks {q : Pattern}
    (accepted : Pattern.compile .whitespace myListingsSearch = .ok q) :
    (myRule q).Seeks (Spells myListingsSearch.tokens) :=
  (plain_templates _ myListings_mem).seeks accepted rfl

/-! The replacements. -/

def opening : Bytes := "let mut out:"

/-- The word of both replacements that is in no template. -/
def newType : Bytes := "Vec<MarketplaceListing>"

theorem marked_templates : ∀ source ∈ templates, ∀ text ∈ replacements,
    Marked source.tokens text opening newType (text.drop 37) 0x7D := by
  simp only [templates, replacements, hostListingsSearch, myListingsSearch,
    hostListingsReplacement, myListingsReplacement, opening, newType, ofLines_eq, ofString_eq]
  decide +kernel

theorem untouched_templates {source text : Bytes} (template : source ∈ templates)
    (replacement : text ∈ replacements) : Untouched (Spells source.tokens) text := by
  have plain := plain_templates source template
  exact (marked_templates source template text replacement).untouched plain.nonempty plain.known
    plain.clean

theorem host_untouched {source : Bytes} (template : source ∈ templates) (p : Pattern) :
    Untouched (Spells source.tokens) (hostRule p).replacement :=
  untouched_templates template List.mem_cons_self

theorem my_untouched {source : Bytes} (template : source ∈ templates) (q : Pattern) :
    Untouched (Spells source.tokens) (myRule q).replacement :=
  untouched_templates template (List.mem_cons_of_mem _ List.mem_cons_self)

/-- The compiled rules have nothing to do on any text that they have been applied to. -/
theorem applyAll_listings {p q : Pattern}
    (first : Pattern.compile .whitespace hostListingsSearch = .ok p)
    (second : Pattern.compile .whitespace myListingsSearch = .ok q) (content : Bytes) :
    applyAll [hostRule p, myRule q] (applyAll [hostRule p, myRule q] content).1 =
      ((applyAll [hostRule p, myRule q] content).1,
        [⟨"host_listings", 0⟩, ⟨"my_listings", 0⟩]) := by
  have host := hostRule_seeks first
  have my := myRule_seeks second
  have between := host.apply_free (host_untouched hostListings_mem p) content
  -- The second rule brings no occurrence of the first template back.
  have freeOfHost := my.apply_keeps_free (my_untouched hostListings_mem q) between
  have freeOfMy := my.apply_free (my_untouched myListings_mem q)
    ((hostRule p).apply content).1
  have once : (applyAll [hostRule p, myRule q] content).1 =
      ((myRule q).apply ((hostRule p).apply content).1).1 := rfl
  rw [once]
  simp only [applyAll, host.apply_of_free freeOfHost, my.apply_of_free freeOfMy]
  rfl

/-- The built-in rules compile, and after they have been applied to any text, applying them again
matches nothing and changes nothing. So where both are for the target, a second successful run
changes no file: neither the target nor a backup of the first run. -/
theorem listings_settled [Chance] :
    ∃ rules, listings.compile = .ok rules ∧
      (∀ c c₁, (replaceAll rules c).modified = c₁ →
        (replaceAll rules c₁).rules = [⟨"host_listings", 0⟩, ⟨"my_listings", 0⟩] ∧
          (replaceAll rules c₁).wasModified = false ∧ (replaceAll rules c₁).modified = c₁) ∧
      ∀ (o : Operation) (w w₁ w₂ : Workspace) (out₁ out₂ : Operation.Outcome),
        o.replacer = .standard → o.rules = rules → Rule.filter o.target rules = .ok rules →
        o.execute.run w = (out₁, w₁) → out₁.error = none →
        o.execute.run w₁ = (out₂, w₂) → out₂.error = none →
        ∀ k, w₂.tree.entry? k = w₁.tree.entry? k := by
  obtain ⟨p, q, first, second, compiled⟩ := compile_listings
  refine ⟨_, compiled, ?_, ?_⟩
  · rintro c c₁ rfl
    have again := applyAll_listings first second c
    have counts := congrArg Prod.snd again
    have text := congrArg Prod.fst again
    refine ⟨counts, ?_, text⟩
    rw [Replacement.wasModified, bne_eq_false_iff_eq]
    exact text.symm
  · intro o w w₁ w₂ out₁ out₂ standard rules filtered run₁ done₁ run₂ done₂
    have ran₁ := o.execute_ran standard w
    have ran₂ := o.execute_ran standard w₁
    rw [run₁] at ran₁
    rw [run₂] at ran₂
    rw [← rules] at filtered
    refine ran₁.repeated ran₂ done₁ done₂ filtered fun c => ?_
    rw [rules, ← modified_replaceAll, ← modified_replaceAll]
    exact congrArg Prod.fst (applyAll_listings first second c)

/-! The rules on a lone file. -/

def loneFile (content : Bytes) : FileTree := ⟨[(["a.rs"], .file 0o644 content)]⟩

def onLoneFile (rules : List Rule) : Operation := { target := "a.rs", rules := rules }

theorem appliesTo_loneFile {r : Rule} (files : r.files = "**/*.rs") :
    r.appliesTo "a.rs" = .ok true := by
  have valid : Glob.isValid "**/*.rs" = true := by decide +kernel
  have hit : Glob.match? "**/*.rs" "a.rs" = .ok true := eq_ok_of_toOption (by decide +kernel)
  rw [Rule.appliesTo, files, if_neg (by decide), valid, hit]
  rfl

theorem filter_loneFile (p q : Pattern) :
    Rule.filter "a.rs" [hostRule p, myRule q] = .ok [hostRule p, myRule q] := by
  have host : (hostRule p).appliesTo "a.rs" = .ok true := appliesTo_loneFile rfl
  have my : (myRule q).appliesTo "a.rs" = .ok true := appliesTo_loneFile rfl
  simp only [Rule.filter, host, my]
  rfl

theorem canWrite_loneFile (content : Bytes) (n : UInt32) :
    TextFile.CanWrite ⟨loneFile content, [], []⟩ "a.rs" n := by
  have short : TextFile.Short "a.rs" := ⟨by decide, by decide⟩
  refine short.canWrite (m := 7) ⟨⟨["a.rs"], rfl, by simp [loneFile, FileTree.entry?]⟩, 0,
    by decide, fun i lt => absurd lt (Nat.not_lt_zero i), [".a.rs.7.tmp"], rfl, rfl⟩ n

theorem execute_loneFile [Chance] {rules : List Rule}
    (filtered : Rule.filter "a.rs" rules = .ok rules) (content : Bytes) :
    let once := (onLoneFile rules).execute.run ⟨loneFile content, [], []⟩
    once.1.error = none ∧ ((onLoneFile rules).execute.run once.2).1.error = none := by
  intro once
  have plain : (onLoneFile rules).Plain := ⟨rfl, rfl, rfl, rfl⟩
  have prepared : (onLoneFile rules).Prepared ⟨loneFile content, [], []⟩ ["a.rs"] 0o644 content
      rules := ⟨rfl, filtered⟩
  have done := plain.done_of_canWrite prepared (canWrite_loneFile content)
  obtain ⟨w', run, written⟩ := plain.written_of_done prepared done
  have prepared' : (onLoneFile rules).Prepared w' ["a.rs"] 0o644
      (replaceAll rules content).modified rules := prepared.again written rfl filtered
  refine ⟨done, ?_⟩
  change ((onLoneFile rules).execute.run ((onLoneFile rules).execute.run _).2).1.error = none
  rw [run]
  exact plain.done_of_canWrite prepared' fun n =>
    (canWrite_loneFile content n).congr (prepared.samePlaces written) written.cwd

/-- The loop of the first template is replaced by the first run and left alone by the second. -/
theorem listings_settled_loneFile :
    let _ : Chance := .always 7
    ∃ rules w₁, listings.compile = .ok rules ∧
      (replaceAll rules hostListingsSearch).rules = [⟨"host_listings", 1⟩, ⟨"my_listings", 0⟩] ∧
      (replaceAll rules (replaceAll rules hostListingsSearch).modified).rules =
        [⟨"host_listings", 0⟩, ⟨"my_listings", 0⟩] ∧
      w₁ = ((onLoneFile rules).execute.run ⟨loneFile hostListingsSearch, [], []⟩).2 ∧
      ∀ k, ((onLoneFile rules).execute.run w₁).2.tree.entry? k = w₁.tree.entry? k := by
  intro _
  obtain ⟨rules, compiled, text, runs⟩ := listings_settled
  obtain ⟨p, q, first, second, eq⟩ := compile_listings
  rw [compiled] at eq
  cases eq
  have hits : (replaceAll [hostRule p, myRule q] hostListingsSearch).rules =
      [⟨"host_listings", 1⟩, ⟨"my_listings", 0⟩] := by
    simp only [replaceAll, applyAll, Rule.apply, Rule.spans, hostRule, myRule,
      (compile_template first).2.2, (compile_template second).2.2]
    simp only [hostListingsSearch, hostListingsReplacement, myListingsSearch, ofLines_eq]
    decide +kernel
  obtain ⟨done₁, done₂⟩ := execute_loneFile (filter_loneFile p q) hostListingsSearch
  exact ⟨_, _, compiled, hits, (text _ _ rfl).1, rfl,
    runs (onLoneFile _) _ _ _ _ _ rfl rfl (filter_loneFile p q) (Prod.eta _).symm done₁
      (Prod.eta _).symm done₂⟩

end Retouch.Preset
