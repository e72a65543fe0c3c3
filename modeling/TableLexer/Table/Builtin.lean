import TableLexer.Table.Basic

/-!
# Built-in tables

The rules of the six languages.  Keywords stand above identifiers, comments above
operators, and a rule that takes any single character stands last.  Line comments stop at a
carriage return as well as at a line feed.
-/

namespace TableLexer
namespace Table

/-- Matches any single character. -/
def catchAllPattern : String := "(?s)."

/-- Blanks. -/
def whitespaceRule : Declaration := ⟨.whitespace, "\\s+"⟩

/-- Any single character. -/
def unknownRule : Declaration := ⟨.unknown, catchAllPattern⟩

/-- Words of letters, digits and `_`. -/
def identifierRule : Declaration := ⟨.identifier, "[a-zA-Z_][a-zA-Z0-9_]*"⟩

/-- Decimal numbers that no word character touches. -/
def numberRule : Declaration :=
  ⟨.number, "(?-u:\\b)[0-9]+(\\.[0-9]+)?([eE][+-]?[0-9]+)?(?-u:\\b)"⟩

/-- Texts between double quotes. -/
def doubleQuotedRule : Declaration := ⟨.string, "\"[^\"]*\""⟩

/-- Comments to the end of a line or between slashes and stars. -/
def slashCommentRule : Declaration := ⟨.comment, "//[^\\r\\n]*|/\\*[\\s\\S]*?\\*/"⟩

/-- Runs of operator characters. -/
def operatorRule : Declaration := ⟨.operator, "[+\\-*/=<>!&|^%~?:]+"⟩

/-- Brackets and separators. -/
def delimiterRule : Declaration := ⟨.delimiter, "[\x7b\x7d;,()\\[\\]]"⟩

/-- The pattern of a list of whole words. -/
def wordsPattern (words : List String) : String :=
  "(?-u:\\b)(" ++ "|".intercalate words ++ ")(?-u:\\b)"

/-- The keywords of C. -/
def cKeywords : List String :=
  ["if", "else", "while", "for", "return", "int", "float", "void", "main",
   "char", "struct", "typedef", "switch", "case", "break", "continue", "default", "do",
   "sizeof", "static", "extern", "const"]

/-- The keywords of Python. -/
def pythonKeywords : List String :=
  ["def", "class", "import", "from", "as", "if", "elif", "else", "while", "for",
   "in", "try", "except", "finally", "return", "break", "continue", "with", "assert",
   "lambda", "yield", "global", "nonlocal", "True", "False", "None"]

/-- The keywords of Java. -/
def javaKeywords : List String :=
  ["abstract", "assert", "boolean", "break", "byte", "case", "catch", "char",
   "class", "const", "continue", "default", "do", "double", "else", "enum", "extends",
   "final", "finally", "float", "for", "if", "implements", "import", "instanceof", "int",
   "interface", "long", "native", "new", "package", "private", "protected", "public",
   "return", "short", "static", "strictfp", "super", "switch", "synchronized", "this",
   "throw", "throws", "transient", "try", "void", "volatile", "while", "true",
   "false", "null"]

/-- The keywords of JavaScript. -/
def javaScriptKeywords : List String :=
  ["var", "let", "const", "function", "class", "if", "else", "for", "while",
   "do", "switch", "case", "break", "continue", "return", "try", "catch", "finally",
   "throw", "new", "delete", "typeof", "instanceof", "in", "of", "this", "super", "async",
   "await", "import", "export", "default", "extends", "static", "get", "set", "null",
   "undefined", "true", "false"]

/-- The rules of C. -/
def cRules : List Declaration :=
  [⟨.keyword, wordsPattern cKeywords⟩, identifierRule, numberRule, doubleQuotedRule,
   slashCommentRule, operatorRule, delimiterRule, whitespaceRule, unknownRule]

/-- The rules of Python. -/
def pythonRules : List Declaration :=
  [⟨.keyword, wordsPattern pythonKeywords⟩, identifierRule, numberRule,
   ⟨.string, "'[^']*'|\"[^\"]*\""⟩, ⟨.comment, "#[^\\r\\n]*"⟩,
   ⟨.operator, "[+\\-*/=<>!&|^%@~:]+"⟩, delimiterRule, whitespaceRule, unknownRule]

/-- The rules of Java. -/
def javaRules : List Declaration :=
  [⟨.keyword, wordsPattern javaKeywords⟩, identifierRule,
   ⟨.number, "(?-u:\\b)[0-9]+(\\.[0-9]+)?([eE][+-]?[0-9]+)?[fFdDlL]?(?-u:\\b)"⟩,
   doubleQuotedRule, slashCommentRule, operatorRule, delimiterRule, whitespaceRule,
   unknownRule]

/-- The rules of JavaScript. -/
def javaScriptRules : List Declaration :=
  [⟨.keyword, wordsPattern javaScriptKeywords⟩,
   ⟨.identifier, "[a-zA-Z_$][a-zA-Z0-9_$]*"⟩, numberRule,
   ⟨.string, "'[^']*'|\"[^\"]*\"|`[^`]*`"⟩, slashCommentRule, operatorRule, delimiterRule,
   whitespaceRule, unknownRule]

/-- The rules of HTML. -/
def htmlRules : List Declaration :=
  [⟨.tag, "</?[a-zA-Z][a-zA-Z0-9-]*"⟩, ⟨.attr, "\\s[a-zA-Z-]+=\"[^\"]*\""⟩,
   ⟨.text, ">[^<]+"⟩, ⟨.comment, "<!--[\\s\\S]*?-->"⟩, ⟨.delimiter, "[<>]"⟩,
   whitespaceRule, unknownRule]

/-- The rules of CSS. -/
def cssRules : List Declaration :=
  [⟨.selector, "[a-zA-Z0-9_.#:][a-zA-Z0-9_\\-.*#:\\[\\]=^$|>+~]+\\s*\\\x7b"⟩,
   ⟨.property, "\\s*[a-zA-Z\\-]+\\s*:"⟩, ⟨.value, ":\\s*[^;]+;"⟩,
   ⟨.comment, "/\\*[\\s\\S]*?\\*/"⟩, ⟨.delimiter, "[\x7b\x7d;]"⟩, whitespaceRule,
   unknownRule]

/-- The declared rules of a language. -/
def declarations : Language → List Declaration
  | .c => cRules
  | .python => pythonRules
  | .java => javaRules
  | .javaScript => javaScriptRules
  | .html => htmlRules
  | .css => cssRules

/-- The rule table of a language. -/
def ofLanguage (l : Language) : Table :=
  (compileLenient l (declarations l)).1

/-- The table of C. -/
def c : Table := ofLanguage .c
/-- The table of Python. -/
def python : Table := ofLanguage .python
/-- The table of Java. -/
def java : Table := ofLanguage .java
/-- The table of JavaScript. -/
def javaScript : Table := ofLanguage .javaScript
/-- The table of HTML. -/
def html : Table := ofLanguage .html
/-- The table of CSS. -/
def css : Table := ofLanguage .css

/-- The rule table of a language, compiled once. -/
def builtin : Language → Table
  | .c => c
  | .python => python
  | .java => java
  | .javaScript => javaScript
  | .html => html
  | .css => css

/-- All that is wrong with a language's table. -/
def problems (l : Language) : List TableError :=
  let (table, errors) := compileLenient l (declarations l)
  match table.check with
  | .ok () => errors
  | .error e => errors ++ [e]

/-- All that is wrong with the built-in tables. -/
def allProblems : List TableError :=
  Language.all.flatMap problems

end Table
end TableLexer
