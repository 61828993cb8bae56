import Retouch.Proofs.Text.Layout

/-! Texts that are laid out alike.
Runs of layout bytes count as one space each, so that texts which differ only in their layout
become equal. Such texts are read alike, too: code points hold no layout bytes. -/
namespace Retouch

open CodePoint

/-- The text with every run of layout bytes made one space. -/
def collapse : Bytes → Bytes
  | [] => []
  | b :: rest =>
    if isLayout b then
      if rest.head?.any isLayout then collapse rest else 0x20 :: collapse rest
    else b :: collapse rest

/-- The texts become equal once every run of layout bytes is made one space. -/
def Alike (x y : Bytes) : Prop := collapse x = collapse y

theorem collapse_solid {b : UInt8} (dense : isLayout b = false) (rest : Bytes) :
    collapse (b :: rest) = b :: collapse rest := by
  simp [collapse, dense]

theorem head?_any_flush {rest : Bytes} (flush : Flush rest) : rest.head?.any isLayout = false := by
  cases rest with
  | nil => rfl
  | cons b rest => exact flush b rfl

theorem collapse_gap {gap : Bytes} (layout : Layout gap) (nonempty : gap ≠ []) (rest : Bytes) :
    collapse (gap ++ rest) = collapse (0x20 :: rest) := by
  induction gap with
  | nil => exact absurd rfl nonempty
  | cons g gap ih =>
    have blank : isLayout g = true := layout g List.mem_cons_self
    have space : isLayout 0x20 = true := rfl
    cases gap with
    | nil =>
      rw [List.cons_append, List.nil_append, collapse, collapse, if_pos blank, if_pos space]
    | cons g' gap =>
      have second : isLayout g' = true := layout g' (by simp)
      rw [← ih (fun b member => layout b (List.mem_cons_of_mem _ member)) (by simp),
        List.cons_append, collapse, if_pos blank, if_pos (by simpa using second)]

theorem collapse_space {rest : Bytes} (flush : Flush rest) :
    collapse (0x20 :: rest) = 0x20 :: collapse rest := by
  have space : isLayout 0x20 = true := rfl
  rw [collapse, if_pos space, head?_any_flush flush]
  rfl

inductive Paired : Bytes → Bytes → Prop where
  | nil : Paired [] []
  | solid {b : UInt8} {x y : Bytes} : isLayout b = false → Alike x y → Paired (b :: x) (b :: y)
  | gap {g h x y before behind : Bytes} : before = g ++ x → behind = h ++ y → Layout g → g ≠ [] →
      Flush x → Layout h → h ≠ [] → Flush y → Alike x y → Paired before behind

theorem isContinuation_layout {b : UInt8} (blank : isLayout b = true) :
    isContinuation b = false := by
  simp only [isLayout, Bool.or_eq_true, beq_iff_eq] at blank
  rcases blank with (((rfl | rfl) | rfl) | rfl) | rfl <;> rfl

namespace Alike

variable {x y : Bytes}

theorem symm (alike : Alike x y) : Alike y x := Eq.symm alike

theorem not_flush {g : Bytes} (layout : Layout g) (nonempty : g ≠ []) (flush : Flush y)
    (alike : Alike (g ++ x) y) : False := by
  rw [Alike, collapse_gap layout nonempty] at alike
  have starts : ∃ rest, collapse (0x20 :: x) = 0x20 :: rest := by
    obtain ⟨gap, rest, rfl, layout, flush⟩ := layout_split x
    have space : Layout (0x20 :: gap) := by
      intro b member
      rcases List.mem_cons.mp member with rfl | member
      · rfl
      · exact layout b member
    rw [← List.cons_append, collapse_gap space (by simp), collapse_space flush]
    exact ⟨_, rfl⟩
  obtain ⟨rest, eq⟩ := starts
  rw [eq] at alike
  cases y with
  | nil => cases alike
  | cons b y =>
    have dense := flush b rfl
    rw [collapse_solid dense] at alike
    cases alike
    cases dense

theorem paired (alike : Alike x y) : Paired x y := by
  obtain ⟨g, x, rfl, layout, flush⟩ := layout_split x
  obtain ⟨h, y, rfl, layout', flush'⟩ := layout_split y
  by_cases empty : g = []
  · by_cases empty' : h = []
    · subst empty empty'
      rw [List.nil_append, List.nil_append] at alike ⊢
      cases x with
      | nil =>
        cases y with
        | nil => exact .nil
        | cons c y => rw [Alike, collapse_solid (flush' c rfl)] at alike; cases alike
      | cons b x =>
        rw [Alike, collapse_solid (flush b rfl)] at alike
        cases y with
        | nil => cases alike
        | cons c y =>
          rw [collapse_solid (flush' c rfl), List.cons.injEq] at alike
          rw [← alike.1]
          exact .solid (flush b rfl) alike.2
    · subst empty
      exact (not_flush layout' empty' flush alike.symm).elim
  · by_cases empty' : h = []
    · subst empty'
      exact (not_flush layout empty flush' alike).elim
    · refine .gap rfl rfl layout empty flush layout' empty' flush' ?_
      rw [Alike, collapse_gap layout empty, collapse_gap layout' empty', collapse_space flush,
        collapse_space flush', List.cons.injEq] at alike
      exact alike.2

theorem head (alike : Alike x y) : x.head?.any isLayout = y.head?.any isLayout := by
  cases alike.paired with
  | nil => rfl
  | solid => rfl
  | @gap g h x y _ _ eq eq' layout nonempty _ layout' nonempty' _ _ =>
    subst eq eq'
    obtain ⟨b, g, rfl⟩ := List.exists_cons_of_ne_nil nonempty
    obtain ⟨c, h, rfl⟩ := List.exists_cons_of_ne_nil nonempty'
    have blank : isLayout b = true := layout b List.mem_cons_self
    have blank' : isLayout c = true := layout' c List.mem_cons_self
    simp [blank, blank']

theorem cons (b : UInt8) (alike : Alike x y) : Alike (b :: x) (b :: y) := by
  have same : collapse x = collapse y := alike
  rw [Alike, collapse, collapse, alike.head, same]

theorem append (text : Bytes) (alike : Alike x y) : Alike (text ++ x) (text ++ y) := by
  induction text with
  | nil => exact alike
  | cons b text ih => exact ih.cons b

theorem gaps {g h : Bytes} (layout : Layout g) (nonempty : g ≠ []) (layout' : Layout h)
    (nonempty' : h ≠ []) (alike : Alike x y) : Alike (g ++ x) (h ++ y) := by
  rw [Alike, collapse_gap layout nonempty, collapse_gap layout' nonempty']
  exact alike.cons 0x20

/-- The continuation bytes at their heads are the same, and behind these the texts are still laid
out alike. -/
theorem continuations (alike : Alike x y) :
    ∃ p x' y', x = p ++ x' ∧ y = p ++ y' ∧ Alike x' y' ∧ x.takeWhile isContinuation = p ∧
      y.takeWhile isContinuation = p := by
  induction x generalizing y with
  | nil =>
    cases alike.paired with
    | nil => exact ⟨[], [], [], rfl, rfl, rfl, rfl, rfl⟩
    | @gap g _ _ _ _ _ eq _ _ nonempty _ _ _ _ _ =>
      exact absurd (List.append_eq_nil_iff.mp eq.symm).1 nonempty
  | cons b x ih =>
    cases alike.paired with
    | @solid _ _ y dense inner =>
      cases cont : isContinuation b with
      | true =>
        obtain ⟨p, x', y', rfl, rfl, behind, taken, taken'⟩ := ih inner
        refine ⟨b :: p, x', y', rfl, rfl, behind, ?_, ?_⟩
        · rw [List.takeWhile_cons, if_pos cont, taken]
        · rw [List.takeWhile_cons, if_pos cont, taken']
      | false =>
        refine ⟨[], b :: x, b :: y, rfl, rfl, alike, ?_, ?_⟩
        · rw [List.takeWhile_cons, cont]; rfl
        · rw [List.takeWhile_cons, cont]; rfl
    | @gap g h _ _ _ _ eq eq' layout nonempty _ layout' nonempty' _ _ =>
      obtain ⟨c, g, rfl⟩ := List.exists_cons_of_ne_nil nonempty
      obtain ⟨d, h, rfl⟩ := List.exists_cons_of_ne_nil nonempty'
      cases eq
      subst eq'
      refine ⟨[], _, _, rfl, rfl, alike, ?_, ?_⟩
      · rw [List.takeWhile_cons,
          isContinuation_layout (layout b List.mem_cons_self)]
        rfl
      · rw [List.cons_append, List.takeWhile_cons,
          isContinuation_layout (layout' d List.mem_cons_self)]
        rfl

/-- The same code point is read behind the same lead byte, and the texts go on alike. -/
theorem read (b : UInt8) (alike : Alike x y) :
    CodePoint.read b x = CodePoint.read b y ∧
      (b :: x).take (CodePoint.read b x).width = (b :: y).take (CodePoint.read b x).width ∧
      Alike ((b :: x).drop (CodePoint.read b x).width)
        ((b :: y).drop (CodePoint.read b x).width) := by
  have near := read_width_le b x
  obtain ⟨p, x, y, rfl, rfl, behind, taken, taken'⟩ := alike.continuations
  have inside : (CodePoint.read b (p ++ x)).width ≤ (b :: p).length := by
    rwa [taken] at near
  refine ⟨?_, ?_, ?_⟩
  · calc CodePoint.read b (p ++ x)
        = CodePoint.read b ((p ++ x).takeWhile isContinuation) := (read_takeWhile b _).symm
      _ = CodePoint.read b ((p ++ y).takeWhile isContinuation) := by rw [taken, taken']
      _ = CodePoint.read b (p ++ y) := read_takeWhile b _
  · rw [← List.cons_append, ← List.cons_append, List.take_append_of_le_length inside,
      List.take_append_of_le_length inside]
  · rw [← List.cons_append, ← List.cons_append, List.drop_append_of_le_length inside,
      List.drop_append_of_le_length inside]
    exact behind.append _

end Alike

end Retouch
