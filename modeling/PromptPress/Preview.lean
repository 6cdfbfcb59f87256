import PromptPress.Json.Printer

/-!
# The preview page

The page that shows a component on its own.  It imports the component, and the demo where there is
one, by paths relative to the page.
-/

namespace PromptPress

/-- The name of the file that holds the preview page. -/
def previewFilename : String := "preview.html"

namespace Preview

/-- How a character stands in the text of a page. -/
def escapeChar : Char → List Char
  | '&' => "&amp;".toList
  | '<' => "&lt;".toList
  | '>' => "&gt;".toList
  | '\x22' => "&quot;".toList
  | '\x27' => "&#x27;".toList
  | c => [c]

/-- A text as it stands in a page. -/
def escape (s : String) : String :=
  String.ofList (s.toList.flatMap escapeChar)

/-- The string literal that names a file for an import. -/
def specifier (path : String) : String :=
  Json.asciiString ("./" ++ path)

/-- The lines that choose what is shown. -/
def renderBlock : Option String → List String
  | some demo =>
    ["    import Demo from " ++ specifier demo ++ ";",
     "    const Preview = Demo ?? Component;",
     "    const app = Preview instanceof Function ? Preview() : Preview;"]
  | none =>
    ["    const Preview = Component instanceof Function ? Component() : Component;",
     "    const app = Preview;"]

/-- The lines of the page before the imports. -/
def head (slug : String) : List String :=
  ["<!doctype html>",
   "<html lang=\"en\">",
   "<head>",
   "  <meta charset=\"utf-8\" />",
   "  <title>" ++ escape slug ++ " Preview</title>",
   "  <link rel=\"stylesheet\" href=\"/preview.css\" />",
   "</head>",
   "<body>",
   "  <div id=\"root\"></div>",
   "  <script type=\"module\">"]

/-- The lines of the page after the choice of what is shown. -/
def tail : List String :=
  ["    const container = document.getElementById('root');",
   "    if (container) \x7b",
   "      container.innerHTML = '';",
   "      if (typeof app === 'string') \x7b",
   "        container.innerHTML = app;",
   "      \x7d else if (app && app.outerHTML) \x7b",
   "        container.appendChild(app);",
   "      \x7d else \x7b",
   "        container.innerText = '[Preview rendering not implemented]';",
   "      \x7d",
   "    \x7d",
   "  </script>",
   "</body>",
   "</html>",
   ""]

/-- The preview page of a component. -/
def page (slug componentFile : String) (demoFile : Option String) : String :=
  "\n".intercalate
    (head slug ++ ["    import Component from " ++ specifier componentFile ++ ";"] ++
      renderBlock demoFile ++ tail)

/-- The remark on a page without a demo. -/
def warnings (demoFile : Option String) : List String :=
  if demoFile.isSome then [] else ["Preview rendered without demo; fallback to component export"]

end Preview

/-- A preview: its page, and the remarks on it. -/
structure Preview where
  html : String
  remarks : List String
deriving DecidableEq, Inhabited

/-- Why there is no preview. -/
inductive PreviewError where
  | noComponent
deriving DecidableEq, Inhabited

/-- The message of an error. -/
def PreviewError.message : PreviewError → String
  | noComponent => "component_file missing"

/-- The preview of a component. -/
def Preview.create (slug componentFile : String) (demoFile : Option String) :
    Except PreviewError Preview :=
  if componentFile = "" then .error .noComponent
  else .ok ⟨page slug componentFile demoFile, warnings demoFile⟩

end PromptPress
