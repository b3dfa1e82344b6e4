import Gleaner.Html.Node

set_option autoImplicit false

/-! # Groups of elements

The rules of tree construction speak of groups of elements: those that a scope ends at, those whose
end tag may be left out, those that formatting cannot cross. -/

namespace Gleaner.Html

/-- A group of elements. -/
abbrev ElementGroup := ElementName → Bool

/-- The elements of HTML with one of the names. -/
def htmlElements (names : List String) : ElementGroup := fun e =>
  e.space == .html && names.contains e.localName

/-- The element of HTML with the name. -/
def htmlElement (name : String) : ElementGroup := fun e => e.space == .html && e.localName == name

namespace ElementGroup

/-- Elements of MathML in which text is HTML. -/
def mathTextPoint : ElementGroup := fun e =>
  e.space == .mathml && ["mi", "mo", "mn", "ms", "mtext"].contains e.localName

/-- Elements of SVG in which markup is HTML. -/
def svgHtmlPoint : ElementGroup := fun e =>
  e.space == .svg && ["foreignObject", "desc", "title"].contains e.localName

/-- Where the search for an open element ends. -/
def scope : ElementGroup := fun e =>
  htmlElements ["applet", "caption", "html", "table", "td", "th", "marquee", "object", "template"] e ||
    mathTextPoint e || svgHtmlPoint e

/-- Where the search for an open list item ends. -/
def listItemScope : ElementGroup := fun e => scope e || htmlElements ["ol", "ul"] e

/-- Where the search for an open paragraph ends. -/
def buttonScope : ElementGroup := fun e => scope e || htmlElement "button" e

/-- Where the search for an open part of a table ends. -/
def tableScope : ElementGroup := htmlElements ["html", "table", "template"]

/-- Where the search for an open selection ends: everywhere but at its own parts. -/
def selectScope : ElementGroup := fun e => !htmlElements ["optgroup", "option"] e

/-- What the rows of a table stand in. -/
def tableBodyContext : ElementGroup := htmlElements ["tbody", "tfoot", "thead", "template", "html"]

/-- What the cells of a table stand in. -/
def tableRowContext : ElementGroup := htmlElements ["tr", "template", "html"]

/-- The cells of a table. -/
def cells : ElementGroup := htmlElements ["td", "th"]

/-- The parts of a table that text and markup cannot stand in directly. -/
def tableParts : ElementGroup := htmlElements ["table", "tbody", "tfoot", "thead", "tr"]

/-- The headings. -/
def headings : ElementGroup := htmlElements ["h1", "h2", "h3", "h4", "h5", "h6"]

/-- Elements whose end tag may be left out. -/
def impliedEnd : ElementGroup :=
  htmlElements ["dd", "dt", "li", "option", "optgroup", "p", "rb", "rp", "rt", "rtc"]

/-- Elements whose end tag may be left out at the end of a template. -/
def thoroughImpliedEnd : ElementGroup := fun e =>
  impliedEnd e || htmlElements ["caption", "colgroup", "tbody", "td", "tfoot", "th", "thead", "tr"] e

/-- A group without the elements of one name. -/
def without (group : ElementGroup) (name : String) : ElementGroup := fun e =>
  group e && !htmlElement name e

/-- Elements that are more than a piece of running text. -/
def special : ElementGroup := htmlElements
  ["address", "applet", "area", "article", "aside", "base", "basefont", "bgsound", "blockquote",
    "body", "br", "button", "caption", "center", "col", "colgroup", "dd", "details", "dir", "div",
    "dl", "dt", "embed", "fieldset", "figcaption", "figure", "footer", "form", "frame", "frameset",
    "h1", "h2", "h3", "h4", "h5", "h6", "head", "header", "hgroup", "hr", "html", "iframe", "img",
    "input", "isindex", "li", "link", "listing", "main", "marquee", "menu", "meta", "nav", "noembed",
    "noframes", "noscript", "object", "ol", "p", "param", "plaintext", "pre", "script", "section",
    "select", "source", "style", "summary", "table", "tbody", "td", "template", "textarea", "tfoot",
    "th", "thead", "title", "tr", "track", "ul", "wbr", "xmp"]

end ElementGroup

end Gleaner.Html
