import Retouch.Proofs.Pattern.Overlap
import Retouch.Proofs.Preset

/-! The built-in rules in either order.
The two templates begin alike, but they part before either ends, and their first word comes back in
neither of them with the second one behind it. So their occurrences are apart, and neither of them
touches a replacement. -/
namespace Retouch.Preset

open CodePoint

theorem apart_listings :
    Apart (Spells hostListingsSearch.tokens) (Spells myListingsSearch.tokens) := by
  apply apart_of_meets
  · simp only [hostListingsSearch, myListingsSearch, ofLines_eq]
    decide +kernel
  · simp only [hostListingsSearch, myListingsSearch, ofLines_eq]
    decide +kernel

/-- The built-in rules compile, and on every text they do the same in either order. Each has as many
hits as its pattern finds in the text on its own. -/
theorem listings_independent :
    ∃ host my p q, listings.compile = .ok [host, my] ∧
      host.name = "host_listings" ∧ host.pattern = some p ∧
      my.name = "my_listings" ∧ my.pattern = some q ∧
      ∀ content,
        (replaceAll [host, my] content).modified = (replaceAll [my, host] content).modified ∧
        (replaceAll [host, my] content).rules =
          [⟨host.name, (p.findAll content).length⟩, ⟨my.name, (q.findAll content).length⟩] ∧
        (replaceAll [my, host] content).rules =
          [⟨my.name, (q.findAll content).length⟩, ⟨host.name, (p.findAll content).length⟩] := by
  obtain ⟨p, q, first, second, compiled⟩ := compile_listings
  refine ⟨hostRule p, myRule q, p, q, compiled, rfl, rfl, rfl, rfl, fun content => ?_⟩
  obtain ⟨text, mine, hosts⟩ := (hostRule_seeks first).independent (myRule_seeks second)
    (plain_templates _ hostListings_mem).oneEnd (plain_templates _ myListings_mem).oneEnd
    apart_listings (host_untouched myListings_mem p) (my_untouched hostListings_mem q) content
  refine ⟨text, ?_, ?_⟩
  · simp only [replaceAll, applyAll, mine]
    rfl
  · simp only [replaceAll, applyAll, hosts]
    rfl

end Retouch.Preset
