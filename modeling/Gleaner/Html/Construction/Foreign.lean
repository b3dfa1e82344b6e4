import Gleaner.Html.Construction.Builder

set_option autoImplicit false

/-! # Names in foreign elements

Markup is read without regard to letter case, but some names of SVG and MathML have capitals, and
some attributes belong to a namespace. Both are restored from the names as they are read. -/

namespace Gleaner.Html.Foreign

/-- Element names of SVG with capitals. -/
def svgElements : List String :=
  ["altGlyph", "altGlyphDef", "altGlyphItem", "animateColor", "animateMotion", "animateTransform",
    "clipPath", "feBlend", "feColorMatrix", "feComponentTransfer", "feComposite", "feConvolveMatrix",
    "feDiffuseLighting", "feDisplacementMap", "feDistantLight", "feDropShadow", "feFlood", "feFuncA",
    "feFuncB", "feFuncG", "feFuncR", "feGaussianBlur", "feImage", "feMerge", "feMergeNode",
    "feMorphology", "feOffset", "fePointLight", "feSpecularLighting", "feSpotLight", "feTile",
    "feTurbulence", "foreignObject", "glyphRef", "linearGradient", "radialGradient", "textPath"]

/-- Attribute names of SVG with capitals. -/
def svgAttributes : List String :=
  ["attributeName", "attributeType", "baseFrequency", "baseProfile", "calcMode", "clipPathUnits",
    "diffuseConstant", "edgeMode", "filterUnits", "glyphRef", "gradientTransform", "gradientUnits",
    "kernelMatrix", "kernelUnitLength", "keyPoints", "keySplines", "keyTimes", "lengthAdjust",
    "limitingConeAngle", "markerHeight", "markerUnits", "markerWidth", "maskContentUnits",
    "maskUnits", "numOctaves", "pathLength", "patternContentUnits", "patternTransform",
    "patternUnits", "pointsAtX", "pointsAtY", "pointsAtZ", "preserveAlpha", "preserveAspectRatio",
    "primitiveUnits", "refX", "refY", "repeatCount", "repeatDur", "requiredExtensions",
    "requiredFeatures", "specularConstant", "specularExponent", "spreadMethod", "startOffset",
    "stdDeviation", "stitchTiles", "surfaceScale", "systemLanguage", "tableValues", "targetX",
    "targetY", "textLength", "viewBox", "viewTarget", "xChannelSelector", "yChannelSelector",
    "zoomAndPan"]

/-- Attribute names of MathML with capitals. -/
def mathAttributes : List String := ["definitionURL"]

/-- The spelling that a list has for a name. -/
def respell (spellings : List String) (name : String) : String :=
  (spellings.find? fun s => Text.lower s == name).getD name

/-- Attributes that belong to a namespace, with their local names there. -/
def qualified : List (String × AttributeSpace × String) :=
  [("xlink:actuate", .xlink, "actuate"), ("xlink:arcrole", .xlink, "arcrole"),
    ("xlink:href", .xlink, "href"), ("xlink:role", .xlink, "role"), ("xlink:show", .xlink, "show"),
    ("xlink:title", .xlink, "title"), ("xlink:type", .xlink, "type"), ("xml:base", .xml, "base"),
    ("xml:lang", .xml, "lang"), ("xml:space", .xml, "space"), ("xmlns", .xmlns, "xmlns"),
    ("xmlns:xlink", .xmlns, "xlink")]

/-- The attributes of a foreign element. -/
def attributes (space : Namespace) (as : List (String × String)) : List Attribute :=
  as.map fun (name, value) =>
    let name := match space with
      | .svg => respell svgAttributes name
      | .mathml => respell mathAttributes name
      | .html => name
    match qualified.find? (·.1 == name) with
    | some (_, space, localName) => ⟨space, localName, value⟩
    | none => ⟨.plain, name, value⟩

/-- The name of a foreign element inside of one. -/
def elementName (space : Namespace) (name : String) : ElementName :=
  ⟨space, match space with
    | .svg => respell svgElements name
    | .mathml | .html => name⟩

/-- Start tags that cannot stand in foreign elements. -/
def breakingOut : List String :=
  ["b", "big", "blockquote", "body", "br", "center", "code", "dd", "div", "dl", "dt", "em", "embed",
    "h1", "h2", "h3", "h4", "h5", "h6", "head", "hr", "i", "img", "li", "listing", "menu", "meta",
    "nobr", "ol", "p", "pre", "ruby", "s", "small", "span", "strong", "strike", "sub", "sup", "table",
    "tt", "u", "ul", "var"]

/-- The start tag ends all foreign elements around it. -/
def breaksOut (t : Tag) : Bool :=
  t.isOneOf breakingOut ||
    (t.name == "font" && t.attributes.any fun (name, _) => ["color", "face", "size"].contains name)

end Gleaner.Html.Foreign
