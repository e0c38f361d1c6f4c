import ComponentTree.Proofs.Options.Resolution
import ComponentTree.Proofs.Policy.Enforcement

/-!
The advice about a name that is not available. The report of such a name says whether it looks like
an HTML element or a custom element, and its message advises to set the option that admits those.
The advice is right when it is given, and it is given whenever one option would do.

* `Options.renderable?` — what a name renders with under options, once these are checked;
  `renderable?_eq_tag_iff`, `renderable?_eq_null_iff` — exactly when that is a tag, or nothing.
* `permits_html_iff`, `permits_customElement_iff` — what turning on one element flag lets through;
  `tag_of_html_iff`, `tag_of_customElement_iff` — which names become tags with it.
* `advice_resolve` — the advice about a name against the options that follow it.
-/

namespace ComponentTree

variable {ρ : Type}

/-! ### Options that are accepted -/

/-- No listed name is blank where the wildcard stands in for the list, so options keep being
accepted with it. -/
theorem fault?_wildcard {o : Options} (accepted : o.fault? = none) :
    { o with allowUnsecureElements := .all true }.fault? = none :=
  fault?_eq_none_iff.mpr
    ⟨(fault?_eq_none_iff.mp accepted).1, fun _ listed => absurd listed List.not_mem_nil⟩

/-- What a name renders with under options, if they are accepted. -/
def Options.renderable? (o : Options) (registry : Registry ρ) (name : String) :
    Option (Renderable ρ) :=
  o.resolve.toOption.map fun s => (ComponentTree.resolve name registry s).renderable

section Renderable

variable {o : Options} {registry : Registry ρ} {name : String}

theorem renderable?_of_accepted (accepted : o.fault? = none) :
    o.renderable? registry name = some (resolve name registry o.settings).renderable := by
  rw [Options.renderable?, resolve_eq_ok_iff.mpr ⟨accepted, rfl⟩]
  rfl

theorem renderable?_eq_tag_iff (accepted : o.fault? = none) :
    o.renderable? registry name = some (.tag name) ↔
      registry.get? name = none ∧ name ≠ "" ∧ o.settings.Permits name := by
  rw [renderable?_of_accepted accepted, Option.some_inj, resolve_tag_iff]
  exact and_iff_right rfl

theorem renderable?_eq_null_iff (accepted : o.fault? = none) :
    o.renderable? registry name = some .null ↔
      registry.get? name = none ∧ ¬(name ≠ "" ∧ o.settings.Permits name) := by
  rw [renderable?_of_accepted accepted, Option.some_inj, resolve_null_iff]

end Renderable

/-! ### What one option lets through -/

theorem permits_html_iff (o : Options) (name : String) :
    { o with allowUnsecureHtmlElement := true }.settings.Permits name ↔
      o.settings.Permits name ∨ isHtmlLike name = true := by
  rw [permits_iff, permits_iff]
  simp only [Options.settings, Settings.isAllowListed, Bool.or_eq_true, Bool.and_eq_true]
  grind

theorem permits_customElement_iff (o : Options) (name : String) :
    { o with allowUnsecureCustomElement := true }.settings.Permits name ↔
      o.settings.Permits name ∨ isCustomElementLike name = true := by
  rw [permits_iff, permits_iff]
  simp only [Options.settings, Settings.isAllowListed, Bool.or_eq_true, Bool.and_eq_true]
  grind

section Granted

variable {o : Options} {registry : Registry ρ} {name : String} (faultless : o.fault? = none)
  (null : (resolve name registry o.settings).renderable = .null)

include faultless null

-- Whether options are accepted does not depend on the element flags, so `faultless` serves for the
-- options with a flag turned on as well.

theorem tag_of_html_iff :
    { o with allowUnsecureHtmlElement := true }.renderable? registry name = some (.tag name) ↔
      (!name.isEmpty && isHtmlLike name) = true := by
  obtain ⟨unregistered, barred⟩ := resolve_null_iff.mp null
  have nonempty : (!name.isEmpty) = true ↔ name ≠ "" := by
    rw [Bool.not_eq_true', ← Bool.not_eq_true, String.isEmpty_iff]
  rw [renderable?_eq_tag_iff (o := { o with allowUnsecureHtmlElement := true }) faultless,
    permits_html_iff, Bool.and_eq_true, nonempty]
  constructor
  · rintro ⟨-, named, already | plain⟩
    · exact absurd ⟨named, already⟩ barred
    · exact ⟨named, plain⟩
  · rintro ⟨named, plain⟩
    exact ⟨unregistered, named, .inr plain⟩

theorem tag_of_customElement_iff :
    { o with allowUnsecureCustomElement := true }.renderable? registry name = some (.tag name) ↔
      isCustomElementLike name = true := by
  obtain ⟨unregistered, barred⟩ := resolve_null_iff.mp null
  rw [renderable?_eq_tag_iff (o := { o with allowUnsecureCustomElement := true }) faultless,
    permits_customElement_iff]
  constructor
  · rintro ⟨-, named, already | hyphen⟩
    · exact absurd ⟨named, already⟩ barred
    · exact hyphen
  · intro hyphen
    refine ⟨unregistered, ?_, .inr hyphen⟩
    rintro rfl
    exact absurd hyphen (by decide)

/-- Where neither flag helps, both together do not. -/
theorem null_of_both (notHtml : (!name.isEmpty && isHtmlLike name) = false)
    (notCustomElement : isCustomElementLike name = false) :
    { o with
      allowUnsecureHtmlElement := true
      allowUnsecureCustomElement := true }.renderable? registry name = some .null := by
  obtain ⟨unregistered, barred⟩ := resolve_null_iff.mp null
  let html : Options := { o with allowUnsecureHtmlElement := true }
  refine (renderable?_eq_null_iff (o := { html with allowUnsecureCustomElement := true })
    faultless).mpr ⟨unregistered, ?_⟩
  rintro ⟨named, permitted⟩
  rcases (permits_customElement_iff html name).mp permitted with permitted | hyphen
  · rcases (permits_html_iff o name).mp permitted with already | plain
    · exact barred ⟨named, already⟩
    · rw [plain, Bool.and_true, Bool.not_eq_false', String.isEmpty_iff] at notHtml
      exact named notHtml
  · rw [hyphen] at notCustomElement
    exact nomatch notCustomElement

theorem tag_of_wildcard (named : name ≠ "") :
    { o with allowUnsecureElements := .all true }.renderable? registry name
      = some (.tag name) :=
  (renderable?_eq_tag_iff (fault?_wildcard faultless)).mpr
    ⟨(resolve_null_iff.mp null).1, named, .inl (.inl rfl)⟩

end Granted

/-! ### The advice -/

/-- **Advice is sound and complete.** Let a name render nothing under options that are accepted and
leave messages on. It is reported, and the report says that it looks like an HTML element exactly
when also turning on that flag makes a tag of it, and that it looks like a custom element exactly
when also turning on that other flag does. It never says both. Where it says neither, the name
renders nothing with both flags on, while the wildcard makes a tag of it unless it is empty. -/
theorem advice_resolve (name : String) (registry : Registry ρ) {o : Options} {s : Settings}
    (accepted : o.resolve = .ok s) (messages : s.displayErrorMessage = true)
    (null : (resolve name registry s).renderable = .null) :
    let html := { o with allowUnsecureHtmlElement := true }
    let customElement := { o with allowUnsecureCustomElement := true }
    let both := { html with allowUnsecureCustomElement := true }
    let wildcard := { o with allowUnsecureElements := .all true }
    ∃ htmlLike customElementLike,
      (resolve name registry s).diagnostic
        = some ⟨name, "", .unavailable htmlLike customElementLike⟩ ∧
      (htmlLike = true ↔ html.renderable? registry name = some (.tag name)) ∧
      (customElementLike = true ↔ customElement.renderable? registry name = some (.tag name)) ∧
      ¬(htmlLike = true ∧ customElementLike = true) ∧
      (htmlLike = false → customElementLike = false →
        both.renderable? registry name = some .null ∧
        (name ≠ "" → wildcard.renderable? registry name = some (.tag name))) := by
  obtain ⟨faultless, rfl⟩ := resolve_eq_ok_iff.mp accepted
  refine ⟨!name.isEmpty && isHtmlLike name, isCustomElementLike name, ?reported,
    (tag_of_html_iff faultless null).symm, (tag_of_customElement_iff faultless null).symm, ?apart,
    fun notHtml notCustomElement =>
      ⟨null_of_both (o := o) faultless null notHtml notCustomElement,
        tag_of_wildcard faultless null⟩⟩
  case reported =>
    rw [diagnostic_resolve, null, messages]
    rfl
  case apart =>
    rintro ⟨plain, hyphen⟩
    rw [not_isHtmlLike_of_isCustomElementLike hyphen, Bool.and_false] at plain
    exact nomatch plain

/-- A hyphen beside a capital, with HTML elements let through, is reported with the advice that
makes a tag of it; a capital alone and the empty name are reported without advice. -/
theorem advice_resolve_hyphenated :
    let o : Options := { allowUnsecureHtmlElement := true, maxDepth := 1 }
    let registry : Registry String := .ofEntries .preserve [("Card", "card")]
    o.resolve = .ok o.settings ∧
      (resolve "my-Widget" registry o.settings).diagnostic
        = some ⟨"my-Widget", "", .unavailable false true⟩ ∧
      (resolve "Widget" registry o.settings).diagnostic
        = some ⟨"Widget", "", .unavailable false false⟩ ∧
      (resolve "" registry o.settings).diagnostic = some ⟨"", "", .unavailable false false⟩ ∧
      { o with allowUnsecureCustomElement := true }.renderable? registry "my-Widget"
        = some (.tag "my-Widget") := by
  intro o registry
  have said : (resolve "my-Widget" registry o.settings).diagnostic
      = some ⟨"my-Widget", "", .unavailable false true⟩ := by decide
  obtain ⟨htmlLike, customElementLike, reported, -, sound, -⟩ :=
    advice_resolve "my-Widget" registry (show o.resolve = .ok o.settings from rfl) rfl (by decide)
  cases reported.symm.trans said
  exact ⟨rfl, said, by decide, by decide, sound.mp rfl⟩

end ComponentTree
