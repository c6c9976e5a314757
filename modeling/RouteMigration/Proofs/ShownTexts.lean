import RouteMigration.Proofs.ShownForms

/-!
# Texts that are shown

What a tree shows when it is printed: the text of every node in it, unless the source text of a node around it stands
for both. A property of texts that passes from a part to the whole holds of the text of a tree if it holds of one of
these texts.
-/

namespace RouteMigration.Proofs
open Syntax Printer

/-- What some nodes have in their own text is shown where the node is: by its form, or by the source text of the node or
of one around it. -/
structure ShowsOwn (occurs : String → Prop) (own : Node → Prop) (node : Node) : Prop where
  fits : Fits node.form
  layout : HasLayout node.form
  text : own node → ∀ shift, ShowsText occurs shift node.form
  raw : node.isPristine = true → ∀ raw ∈ node.info.raw, (∃ n ∈ node.descendants, own n) → occurs raw

lemma own_or_below {own : Node → Prop} {node : Node} (h : ∃ n ∈ node.descendants, own n) :
    own node ∨ ∃ child ∈ node.children, ∃ n ∈ child.descendants, own n := by
  obtain ⟨n, hn, hown⟩ := h
  rcases mem_descendants.mp hn with rfl | ⟨child, hchild, hn⟩
  · exact .inl hown
  · exact .inr ⟨child, hchild, n, hn, hown⟩

/-- A tree shows what the nodes in it have in their own texts. -/
theorem shows_writersOf {occurs : String → Prop} (hup : IsUpward occurs) {own : Node → Prop} (style : Style) {node : Node}
    (h : Throughout (ShowsOwn occurs own) node) :
    (isProperty node.form = false → Shows occurs (writersOf style node).alone (∃ n ∈ node.descendants, own n)) ∧
      Shows occurs (writersOf style node).entry (∃ n ∈ node.descendants, own n) := by
  induction node using node_induction with
  | h info form ih =>
    have hroot : ShowsOwn occurs own ⟨info, form⟩ := h.root
    have hfree : ∀ n ∈ freeParts form, Shows occurs (writersOf style n).alone (∃ m ∈ n.descendants, own m) := by
      intro n hn
      have hchild := freeParts_subset hn
      exact (ih n hchild (h.child hchild)).1 (hroot.fits.free n hn)
    have hentry : ∀ n ∈ form.children, Shows occurs (writersOf style n).entry (∃ m ∈ n.descendants, own m) :=
      fun n hn => (ih n hn (h.child hn)).2
    have hform (hproperty : isProperty form = false) (shift : Int) (isRead : Bool) :
        Shows occurs (byForm style shift isRead (form.map (printed style)))
          (∃ n ∈ (⟨info, form⟩ : Node).descendants, own n) :=
      (shows_byForm hup hroot.fits hproperty hfree hentry shift isRead).mono fun hbelow =>
        ⟨hroot.layout, (own_or_below hbelow).elim (fun hown => .inr (hroot.text hown shift)) .inl⟩
    rw [writersOf_mk]
    dsimp only [writers]
    constructor
    · intro hproperty
      refine shows_after fun before => ?_
      cases hraw : info.raw with
      | none => exact hform hproperty _ _
      | some raw =>
        dsimp only
        split
        · next hpristine =>
          refine (shows_write raw).mono (hroot.raw ?_ raw hraw)
          have hsame : (⟨info, (form.map (printed style)).map Prod.fst⟩ : Node) = ⟨info, form⟩ :=
            congrArg _ (map_fst_map_pair _ form)
          rw [← hsame]
          exact hpristine.1
        · exact hform hproperty _ _
    · cases form with
      | property key value =>
        have hvalue : Shows occurs (writersOf style value).alone (∃ m ∈ value.descendants, own m) :=
          hfree value (List.mem_singleton_self value)
        have hbelow : (∃ n ∈ (⟨info, .property key value⟩ : Node).descendants, own n) →
            ∃ m ∈ value.descendants, own m := by
          intro hbelow
          rcases own_or_below hbelow with hown | ⟨child, hchild, hbelow⟩
          · exact (hroot.text hown 0).elim
          · rwa [List.mem_singleton.mp hchild] at hbelow
        dsimp only [Form.map, property]
        split
        · next hkey =>
          refine (appends_write key).shows.mono fun hcondition => ?_
          obtain ⟨valueInfo, valueForm⟩ := value
          cases valueForm with
          | identifier name isType =>
            rcases own_or_below (hbelow hcondition) with hown | ⟨child, hchild, -⟩
            · have hshown := (h.child (List.mem_singleton_self _)).root.text hown 0
              exact hshown
            · cases hchild
          | _ => cases hkey
        · have hbehind := @shows_behind _ hup style (fun n => ∃ m ∈ n.descendants, own m) value (key ++ ": ") hvalue
          exact hbehind.mono hbelow
      | _ => exact shows_after fun before => hform rfl _ _

end RouteMigration.Proofs
