import NamenodeShell.Markup.Colour

/-!
# Styles

How a run of text looks: attributes switched on or off, a colour, a colour behind the text, and
perhaps a place that the text leads to. A style is defined by words, such as *bold cyan*,
*not dim* or *black on yellow*; the later of two words for the same thing counts. Some styles have
names of their own besides.

Definitions that come to the same style have one normal form, by which opening and closing tags find
each other.
-/
set_option autoImplicit false

namespace NamenodeShell.Markup

/-- The attributes of a style. -/
inductive Attribute where
  | bold
  | dim
  | italic
  | underline
  | blink
  | fastBlink
  | reverse
  | conceal
  | strike
  | doubleUnderline
  | frame
  | encircle
  | overline
  deriving DecidableEq, Repr

namespace Attribute

/-- All attributes, in the order in which they are written. -/
def all : List Attribute :=
  [bold, dim, italic, underline, blink, fastBlink, reverse, conceal, strike, doubleUnderline, frame,
    encircle, overline]

/-- The word for an attribute. -/
def word : Attribute → String
  | bold => "bold"
  | dim => "dim"
  | italic => "italic"
  | underline => "underline"
  | blink => "blink"
  | fastBlink => "blink2"
  | reverse => "reverse"
  | conceal => "conceal"
  | strike => "strike"
  | doubleUnderline => "underline2"
  | frame => "frame"
  | encircle => "encircle"
  | overline => "overline"

/-- The short word for an attribute. -/
def shortWord? : Attribute → Option String
  | bold => some "b"
  | dim => some "d"
  | italic => some "i"
  | underline => some "u"
  | reverse => some "r"
  | conceal => some "c"
  | strike => some "s"
  | doubleUnderline => some "uu"
  | overline => some "o"
  | _ => none

/-- The code that switches an attribute on. -/
def code : Attribute → Nat
  | bold => 1
  | dim => 2
  | italic => 3
  | underline => 4
  | blink => 5
  | fastBlink => 6
  | reverse => 7
  | conceal => 8
  | strike => 9
  | doubleUnderline => 21
  | frame => 51
  | encircle => 52
  | overline => 53

/-- The attribute of a word. -/
def ofWord? (w : String) : Option Attribute :=
  all.find? fun a => a.word == w || a.shortWord? == some w

end Attribute

/-- **How text looks**: the attributes that are switched, the latest switch of each first, the two
colours, and where the text leads. -/
structure Style where
  switches : List (Attribute × Bool) := []
  colour : Option Colour := none
  behind : Option Colour := none
  link : Option String := none
  deriving DecidableEq, Repr, Inhabited

namespace Style

/-- Nothing switched, no colour. -/
def plain : Style := {}

/-- Whether an attribute is switched on or off, if it is switched at all. -/
def switch? (style : Style) (a : Attribute) : Option Bool :=
  style.switches.lookup a

/-- **What text looks like** under an inner style, seen inside an outer one. -/
def within (outer inner : Style) : Style :=
  { switches := inner.switches ++ outer.switches
    colour := inner.colour.or outer.colour
    behind := inner.behind.or outer.behind
    link := inner.link.or outer.link }

/-- The codes a terminal is sent to switch to a style, none for one that looks plain. -/
def codes (style : Style) : List Nat :=
  (Attribute.all.filter fun a => style.switch? a == some true).map Attribute.code ++
    style.colour.toList.map Colour.code ++ style.behind.toList.map Colour.codeBehind

/-! ## Definitions -/

/-- A style with more words read into it, when all of them are words for something. -/
def readWords? (style : Style) : List String → Except BadPart (Option Style)
  | [] => .ok (some style)
  | word :: rest =>
    let lowered := String.ofList (word.toList.map Text.lower)
    if lowered = "on" then
      match rest with
      | [] => .ok none
      | name :: rest =>
        match Colour.ofWord? name with
        | .ok (some colour) => readWords? { style with behind := some colour } rest
        | .ok none => .ok none
        | .error e => .error e
    else if lowered = "not" then
      match rest with
      | [] => .ok none
      | name :: rest =>
        match Attribute.ofWord? name with
        | some a => readWords? { style with switches := (a, false) :: style.switches } rest
        | none => .ok none
    else if lowered = "link" then
      match rest with
      | [] => .ok none
      | target :: rest => readWords? { style with link := some target } rest
    else
      match Attribute.ofWord? lowered with
      | some a => readWords? { style with switches := (a, true) :: style.switches } rest
      | none =>
        match Colour.ofWord? lowered with
        | .ok (some colour) => readWords? { style with colour := some colour } rest
        | .ok none => .ok none
        | .error e => .error e

/-- **The style that a definition comes to**, when it is one. The word *none* alone defines the
plain style. -/
def ofDefinition? (definition : List Char) : Except BadPart (Option Style) :=
  if Text.strip definition = "none".toList then .ok (some plain)
  else plain.readWords? ((Text.words definition).map .ofList)

/-- The words of a style in their normal order. -/
def normalWords (style : Style) : List String :=
  let switches := Attribute.all.flatMap fun a =>
    match style.switch? a with
    | some true => [a.word]
    | some false => ["not " ++ a.word]
    | none => []
  let colours := style.colour.toList.map (·.name) ++
    style.behind.toList.flatMap fun colour => ["on", colour.name]
  switches ++ colours ++ style.link.toList.flatMap fun target => ["link", target]

/-- **The normal form of a text**: the words of the style it defines, or, where it defines none, the
text itself in lower case. -/
def normalForm (text : List Char) : Except BadPart (List Char) :=
  (ofDefinition? text).map fun style =>
    match style.map normalWords with
    | none => (Text.strip text).map Text.lower
    | some [] => "none".toList
    | some words => (" ".intercalate words).toList

/-! ## Styles with names of their own -/

/-- The names, each with the definition it stands for. -/
def definitions : List (String × String) :=
  [
    ("reset", "not bold not dim not italic not underline not blink not blink2 not reverse " ++
      "not conceal not strike default on default"),
    ("bright", "not dim"), ("strong", "bold"), ("code", "bold reverse"), ("emphasize", "italic"),
    ("inspect.attr", "italic yellow"), ("inspect.attr.dunder", "dim italic yellow"),
    ("inspect.callable", "bold red"), ("inspect.async_def", "italic bright_cyan"),
    ("inspect.def", "italic bright_cyan"), ("inspect.class", "italic bright_cyan"),
    ("inspect.error", "bold red"), ("inspect.equals", "none"), ("inspect.help", "cyan"),
    ("inspect.doc", "dim"), ("inspect.value.border", "green"), ("live.ellipsis", "bold red"),
    ("layout.tree.row", "not dim red"), ("layout.tree.column", "not dim blue"),
    ("logging.keyword", "bold yellow"), ("logging.level.notset", "dim"),
    ("logging.level.debug", "green"), ("logging.level.info", "blue"),
    ("logging.level.warning", "red"), ("logging.level.error", "bold red"),
    ("logging.level.critical", "bold reverse red"), ("log.level", "none"),
    ("log.time", "dim cyan"), ("log.message", "none"), ("log.path", "dim"),
    ("repr.ellipsis", "yellow"), ("repr.indent", "dim green"), ("repr.error", "bold red"),
    ("repr.str", "not bold not italic green"), ("repr.brace", "bold"), ("repr.comma", "bold"),
    ("repr.ipv4", "bold bright_green"), ("repr.ipv6", "bold bright_green"),
    ("repr.eui48", "bold bright_green"), ("repr.eui64", "bold bright_green"),
    ("repr.tag_start", "bold"), ("repr.tag_name", "bold bright_magenta"),
    ("repr.tag_contents", "default"), ("repr.tag_end", "bold"),
    ("repr.attrib_name", "not italic yellow"), ("repr.attrib_equal", "bold"),
    ("repr.attrib_value", "not italic magenta"), ("repr.number", "bold not italic cyan"),
    ("repr.number_complex", "bold not italic cyan"), ("repr.bool_true", "italic bright_green"),
    ("repr.bool_false", "italic bright_red"), ("repr.none", "italic magenta"),
    ("repr.url", "not bold not italic underline bright_blue"),
    ("repr.uuid", "not bold bright_yellow"), ("repr.call", "bold magenta"),
    ("repr.path", "magenta"), ("repr.filename", "bright_magenta"), ("rule.line", "bright_green"),
    ("rule.text", "none"), ("json.brace", "bold"), ("json.bool_true", "italic bright_green"),
    ("json.bool_false", "italic bright_red"), ("json.null", "italic magenta"),
    ("json.number", "bold not italic cyan"), ("json.str", "not bold not italic green"),
    ("json.key", "bold blue"), ("prompt", "none"), ("prompt.choices", "bold magenta"),
    ("prompt.default", "bold cyan"), ("prompt.invalid", "red"), ("prompt.invalid.choice", "red"),
    ("pretty", "none"), ("scope.border", "blue"), ("scope.key", "italic yellow"),
    ("scope.key.special", "dim italic yellow"), ("scope.equals", "red"), ("table.header", "bold"),
    ("table.footer", "bold"), ("table.cell", "none"), ("table.title", "italic"),
    ("table.caption", "dim italic"), ("traceback.error", "italic red"),
    ("traceback.border.syntax_error", "bright_red"), ("traceback.border", "red"),
    ("traceback.text", "none"), ("traceback.title", "bold red"),
    ("traceback.exc_type", "bold bright_red"), ("traceback.exc_value", "none"),
    ("traceback.offset", "bold bright_red"), ("bar.back", "grey23"),
    ("bar.complete", "rgb(249,38,114)"), ("bar.finished", "rgb(114,156,31)"),
    ("bar.pulse", "rgb(249,38,114)"), ("progress.description", "none"),
    ("progress.filesize", "green"), ("progress.filesize.total", "green"),
    ("progress.download", "green"), ("progress.elapsed", "yellow"),
    ("progress.percentage", "magenta"), ("progress.remaining", "cyan"),
    ("progress.data.speed", "red"), ("progress.spinner", "green"), ("status.spinner", "green"),
    ("tree", "none"), ("tree.line", "none"), ("markdown.paragraph", "none"),
    ("markdown.text", "none"), ("markdown.em", "italic"), ("markdown.emph", "italic"),
    ("markdown.strong", "bold"), ("markdown.code", "bold cyan on black"),
    ("markdown.code_block", "cyan on black"), ("markdown.block_quote", "magenta"),
    ("markdown.list", "cyan"), ("markdown.item", "none"), ("markdown.item.bullet", "bold yellow"),
    ("markdown.item.number", "bold yellow"), ("markdown.hr", "yellow"),
    ("markdown.h1.border", "none"), ("markdown.h1", "bold"), ("markdown.h2", "bold underline"),
    ("markdown.h3", "bold"), ("markdown.h4", "bold dim"), ("markdown.h5", "underline"),
    ("markdown.h6", "italic"), ("markdown.h7", "dim italic"), ("markdown.link", "bright_blue"),
    ("markdown.link_url", "underline blue"), ("markdown.s", "strike"), ("iso8601.date", "blue"),
    ("iso8601.time", "magenta"), ("iso8601.timezone", "yellow")]

/-- **The style of a name or a definition**; plain where it is neither. -/
def named (name : List Char) : Except BadPart Style :=
  let definition := ((definitions.lookup (.ofList name)).map (·.toList)).getD name
  (ofDefinition? definition).map (·.getD plain)

end Style

end NamenodeShell.Markup
