import HelpCenter.Topic.Basic

/-!
# Prompts

What the model is asked to write.
-/

namespace HelpCenter

/-- The most words an article may have. -/
def wordLimit : Nat := 500

/-- What is asked of every article, and the form of the answer. -/
def requirements : Text :=
  lit "\nRequirements:\n- Write for end users (not developers)\n" ++
    lit "- Be concise and actionable\n" ++
    lit "- Include step-by-step instructions where appropriate\n" ++
    lit "- Reference actual UI elements mentioned in the context\n" ++
    lit "- Use markdown formatting\n- Keep it under " ++ Text.ofNat wordLimit ++
    lit " words\n\nRespond in this exact JSON format:\n\x7b\n" ++
    lit "  \"title\": \"Article title (short, clear)\",\n" ++
    lit "  \"pages\": [\"list\", \"of\", \"relevant\", \"page\", \"paths\"],\n" ++
    lit "  \"content\": \"Full markdown content of the article\"\n\x7d"

/-- The guidance that a catalog has for whoever writes on a topic. -/
def Catalog.guidance (c : Catalog) (topic : Text) : Text :=
  ((c.get? topic).bind (·.prompt)).getD []

/-- The prompt for an article on a topic of a product, given what is known about it. -/
def Catalog.prompt (c : Catalog) (product topic context : Text) : Text :=
  let guidance := c.guidance topic
  lit "You are generating user support documentation for \"" ++ product ++
    lit "\".\n\nContext from the codebase:\n" ++ context ++
    lit "\n\nGenerate a help article for: \"" ++ c.displayName topic ++ lit "\"\n" ++
    (if guidance.isEmpty then [] else lit "\nTopic guidance:\n" ++ guidance ++ lit "\n") ++
    requirements

end HelpCenter
