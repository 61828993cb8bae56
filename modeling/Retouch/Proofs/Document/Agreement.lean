import Retouch.Document
import Retouch.Proofs.Document.Hcl.Config
import Retouch.Proofs.Document.Json
import Retouch.Proofs.Document.Yaml.Config

/-! One configuration in all formats.
JSON and YAML give back what was written. HCL composes texts, so it does so only for those that are
composed already. -/
namespace Retouch.Document

/-- Whatever a configuration holds, its rule file of one line gives it back both as JSON and as
YAML. The place that it was loaded from is not part of a rule file. -/
theorem parse_oneLine_agree (s : Spelling) {c : Config} (valid : c.WellFormed) :
    parse .json (s.oneLine c) = .ok { c with location := [] } ∧
      parse .yaml (s.oneLine c) = .ok { c with location := [] } := by
  constructor
  · rw [parse, Json.parse_oneLine s valid]
    rfl
  · rw [parse, Yaml.parse_oneLine s valid]
    rfl

/-- Texts that look like something else: nothing, a number, a line break with quotes, a line
separator, a character beyond the basic plane. -/
theorem parse_oneLine_agree_looks :
    let c : Config := ⟨"null", true, [], false,
      [⟨"~", "literal", [0x0A, 0x22, 0x5C, 0x00], "1e3",
        [0xE2, 0x80, 0xA8, 0xF0, 0x9F, 0x98, 0x80]⟩], []⟩
    parse .json (Spelling.oneLine ⟨true, false⟩ c) = .ok c ∧
      parse .yaml (Spelling.oneLine ⟨true, false⟩ c) = .ok c := by
  refine parse_oneLine_agree ⟨true, false⟩ ⟨by decide, by decide, ?_⟩
  simp only [List.forall_mem_cons, List.not_mem_nil, false_implies, implies_true, and_true]
  exact ⟨by decide, by decide, by decide, by decide, by decide⟩

end Retouch.Document
