import QuickLaunch.Proofs.Search.Views
import QuickLaunch.Proofs.Text.LowerCase

/-!
# Searching for a part of a title

A title is searched in lower case, and so is the text that is searched for, each by itself. A text
that is settled is found wherever it stands, and a longer text finds nothing that a settled part of
it does not find. A text that is not settled is missed in some of the titles that it stands in: the
lower case of its last or first sigma is another one there.

* `holds_setSearchText`, `current_setSearchText`: a finder that was given a text to search for;
* `Given.found_eq`: what is found, said of each item by itself;
* `Given.found_sublist`: a text that names more titles finds more;
* `parts_found_iff`: the texts that find all items in whose titles they stand;
* `final_sigma_missed`: a title of which a part is not found.
-/

namespace QuickLaunch.Finder

/-! ## A text to search for -/

/-- What a finder was given, with another text. -/
def given (f : Finder) (text : String) : Given :=
  { applications := f.applications, pinned := f.pinned, text := text, filter := f.selected }

/-- The views follow when the text is given: they are current, or the text is another one. -/
def Follows (f : Finder) (text : String) : Prop :=
  f.Current ∨ f.searchText ≠ some text

theorem holds_setSearchText (f : Finder) (text : String) :
    (f.setSearchText (some text)).Holds (f.given text) := by
  simp only [setSearchText, Option.getD_some]
  split
  · next he => exact ⟨rfl, rfl, he.symm, rfl⟩
  · exact ⟨rfl, rfl, rfl, rfl⟩

theorem current_setSearchText {f : Finder} {text : String} (hf : f.Follows text) :
    (f.setSearchText (some text)).Current := by
  rcases hf with hf | hf
  · exact current_step hf (.setSearchText (some text))
  · simp only [setSearchText, Option.getD_some, if_neg (Ne.symm hf)]
    exact current_refresh _

theorem results_setSearchText {f : Finder} {text : String} (hf : f.Follows text) :
    (f.setSearchText (some text)).results = (f.given text).found := by
  rw [(current_setSearchText hf).2, (holds_setSearchText f text).resultsNow]

theorem filtered_setSearchText {f : Finder} {text : String} (hf : f.Follows text) :
    (f.setSearchText (some text)).filtered = (f.given text).shown := by
  rw [(current_setSearchText hf).1, (holds_setSearchText f text).filteredNow]

/-! ## What a text finds -/

namespace Given

/-- What has the title is to be found: the text is not blank, and the title has it. -/
def Matches (g : Given) (title : Option String) : Prop :=
  ¬ g.Blank ∧ g.Names title

instance (g : Given) (title : Option String) : Decidable (g.Matches title) :=
  inferInstanceAs (Decidable (_ ∧ _))

variable {g g' : Given} {r : Result}

/-- The results are the applications that match and then the pinned actions that do. -/
theorem found_eq (g : Given) :
    g.found = (g.applications.filter fun app => decide (g.Matches app.title)).map Application.result
      ++ (g.pinned.filter fun p => decide (g.Matches (some p.title))).map Pinned.result := by
  by_cases hb : g.Blank
  · simp [found, Matches, hb]
  · simp only [found, Matches, hb, if_false, not_false_eq_true, true_and]
    rfl

theorem matches_of_mem_found (hr : r ∈ g.found) : g.Matches r.title := by
  rw [found_eq, List.mem_append, List.mem_map, List.mem_map] at hr
  rcases hr with ⟨app, ha, rfl⟩ | ⟨p, hp, rfl⟩
  · exact of_decide_eq_true (List.mem_filter.mp ha).2
  · exact of_decide_eq_true (List.mem_filter.mp hp).2

theorem mem_found_application (hb : ¬ g.Blank) {app : Application} (ha : app ∈ g.applications)
    (hn : g.Names app.title) : app.result ∈ g.found := by
  rw [found_eq]
  refine List.mem_append_left _ (List.mem_map_of_mem ?_)
  exact List.mem_filter.mpr ⟨ha, decide_eq_true ⟨hb, hn⟩⟩

theorem mem_found_pinned (hb : ¬ g.Blank) {p : Pinned} (hp : p ∈ g.pinned)
    (hn : g.Names (some p.title)) : p.result ∈ g.found := by
  rw [found_eq]
  refine List.mem_append_right _ (List.mem_map_of_mem ?_)
  exact List.mem_filter.mpr ⟨hp, decide_eq_true ⟨hb, hn⟩⟩

/-- Of the items of one finder, a text that names more titles finds more. -/
theorem found_sublist (ha : g'.applications = g.applications) (hp : g'.pinned = g.pinned)
    (hb : ¬ g.Blank) (hn : ∀ title, g'.Names title → g.Names title) :
    g'.found.Sublist g.found := by
  have hm : ∀ title, g'.Matches title → g.Matches title := fun title h => ⟨hb, hn title h.2⟩
  rw [found_eq, found_eq, ha, hp]
  refine List.Sublist.append ?_ ?_
  · refine (List.monotone_filter_right _ fun app h => ?_).map _
    exact decide_eq_true (hm app.title (of_decide_eq_true h))
  · refine (List.monotone_filter_right _ fun p h => ?_).map _
    exact decide_eq_true (hm (some p.title) (of_decide_eq_true h))

/-- What is found of a single application names its title. -/
theorem names_of_mem_found {app : Application} (ha : g.applications = [app])
    (hp : g.pinned = []) (hr : r ∈ g.found) : g.Names app.title := by
  by_contra hn
  rw [found, ha, hp] at hr
  simp [hn] at hr

end Given

/-! ## Parts of titles -/

/-- The texts that find all items whose titles they are part of, among the results of every finder
and among its applications when no filter is selected, and that miss nothing that a longer text
finds: those all of whose capital sigmas are settled, such as all texts without one. -/
theorem parts_found_iff {q : String} (hq : Text.isBlank (some q) = false) :
    Text.settled q.toList = true ↔
      ∀ f : Finder, f.Follows q →
        (∀ app ∈ f.applications, ∀ title ∈ app.title, q.toList <:+: title.toList →
            app.result ∈ (f.setSearchText (some q)).results
              ∧ (f.selected = none → app ∈ (f.setSearchText (some q)).filtered))
          ∧ (∀ p ∈ f.pinned, q.toList <:+: p.title.toList →
            p.result ∈ (f.setSearchText (some q)).results)
          ∧ ∀ longer : String, q.toList <:+: longer.toList → f.Follows longer →
            (f.setSearchText (some longer)).results.Sublist (f.setSearchText (some q)).results := by
  constructor
  · intro hs f hf
    have hb : ¬ (f.given q).Blank := of_decide_eq_false ((f.given q).isBlank_eq ▸ hq)
    rw [results_setSearchText hf, filtered_setSearchText hf]
    refine ⟨fun app ha title ht hi => ?_, fun p hp hi => ?_, fun longer hi hl => ?_⟩
    · have hn : (f.given q).Names app.title := by
        rw [Option.mem_def.mp ht]
        exact Text.lowerChars_infix_of_settled hs hi
      refine ⟨Given.mem_found_application hb ha hn, fun hnone => ?_⟩
      have hfilter : ∀ x ∈ (f.given q).filter, x.accepts app = true := by
        rw [show (f.given q).filter = none from hnone]
        simp
      exact List.mem_filter.mpr ⟨ha, decide_eq_true ⟨.inr hn, hfilter⟩⟩
    · exact Given.mem_found_pinned hb hp (Text.lowerChars_infix_of_settled hs hi)
    · rw [results_setSearchText hl]
      refine Given.found_sublist rfl rfl hb fun title hn => ?_
      exact (Text.lowerChars_infix_of_settled hs hi).trans hn
  · intro hall
    refine Text.settled_iff_forall_infix.mpr fun t ht => ?_
    let app : Application :=
      { title := some (String.ofList t), category := none, source := none, action := .noop }
    let f : Finder := updateApplications {} [app]
    have hf : f.Follows q := .inl (current_step current_new (.updateApplications [app]))
    have hr := ((hall f hf).1 app List.mem_cons_self _ rfl (by simpa using ht)).1
    rw [results_setSearchText hf] at hr
    have hn := Given.names_of_mem_found (g := f.given q) rfl rfl hr
    simpa [Given.Names, given, app] using hn

/-- The sigma of "ΣΑ" is settled by the letter behind it. -/
theorem parts_found_of_letter_behind :
    let app : Application :=
      { title := some "ΑΣΑ", category := none, source := none, action := .noop }
    let f := updateApplications {} [app]
    Text.isBlank (some "ΣΑ") = false ∧ Text.settled "ΣΑ".toList = true
      ∧ f.Follows "ΣΑ" ∧ app.result ∈ (f.setSearchText (some "ΣΑ")).results
      ∧ app ∈ (f.setSearchText (some "ΣΑ")).filtered := by
  intro app f
  have hq : Text.isBlank (some "ΣΑ") = false := by decide +kernel
  have hs : Text.settled "ΣΑ".toList = true := by decide +kernel
  have hf : f.Follows "ΣΑ" := .inl (current_refresh _)
  obtain ⟨hr, hsel⟩ :=
    ((parts_found_iff hq).mp hs f hf).1 app List.mem_cons_self "ΑΣΑ" rfl (by decide)
  exact ⟨hq, hs, hf, hr, hsel rfl⟩

/-- The sigma at the end of "ΑΣ" is final there, and not in the title that goes on. -/
theorem final_sigma_missed :
    let app : Application :=
      { title := some "ΑΣΑ", category := none, source := none, action := .noop }
    let f := updateApplications {} [app]
    f.Current ∧ "ΑΣ".toList <:+: "ΑΣΑ".toList
      ∧ (f.setSearchText (some "ΑΣ")).results = []
      ∧ (f.setSearchText (some "ΑΣ")).filtered = [] := by
  refine ⟨current_refresh _, by decide, ?_, ?_⟩
  · decide +kernel
  · decide +kernel

end QuickLaunch.Finder
