import ShaderDriver.Toml.Parser

namespace ShaderDriver.Toml

/-- The strings that entries name, if all of them are strings. -/
def texts? : Entries → Option (List (String × String))
  | [] => some []
  | (key, .string text) :: entries => (texts? entries).map ((key, text) :: ·)
  | _ => none

/-- A document of one section with nothing but strings: the section's name, its form and the strings. -/
def section? : Entries → Option (String × Form × List (String × String))
  | [(name, .table form entries)] => (texts? entries).map fun texts => (name, form, texts)
  | _ => none

theorem eq_of_texts? {entries : Entries} {texts : List (String × String)} (found : texts? entries = some texts) :
    entries = texts.map fun entry => (entry.1, .string entry.2) := by
  fun_induction texts? entries generalizing texts with
  | case1 =>
    cases found
    rfl
  | case2 key text entries ih =>
    obtain ⟨rest, strings, rfl⟩ := Option.map_eq_some_iff.1 found
    rw [ih strings, List.map_cons]
  | case3 => cases found

/-- What is found in a document of one section is all that is in it. -/
theorem parse?_of_section? {content name : String} {form : Form} {texts : List (String × String)}
    (found : (parse? content).bind section? = some (name, form, texts)) :
    parse? content = some [(name, .table form (texts.map fun entry => (entry.1, .string entry.2)))] := by
  obtain ⟨entries, parsed, found⟩ := Option.bind_eq_some_iff.1 found
  rw [parsed]
  unfold section? at found
  split at found
  · obtain ⟨texts, strings, same⟩ := Option.map_eq_some_iff.1 found
    cases same
    rw [eq_of_texts? strings]
  · cases found

end ShaderDriver.Toml
