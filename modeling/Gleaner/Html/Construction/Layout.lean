import Gleaner.Html.Construction.Builder

set_option autoImplicit false

/-! # Pages that want to be laid out as in old times

A page announces its age by its doctype. The table below lists the public identifiers of doctypes
that old pages used. -/

namespace Gleaner.Html.Layout

/-- Public identifiers of old pages. -/
def oldPublic : List String :=
  ["-//w3o//dtd w3 html strict 3.0//en//", "-/w3c/dtd html 4.0 transitional/en", "html"]

/-- Beginnings of public identifiers of old pages. -/
def oldPublicStarts : List String :=
  ["-//advasoft ltd//dtd html 3.0 aswedit + extensions//",
    "-//as//dtd html 3.0 aswedit + extensions//",
    "-//ietf//dtd html 2.0 level 1//", "-//ietf//dtd html 2.0 level 2//",
    "-//ietf//dtd html 2.0 strict level 1//", "-//ietf//dtd html 2.0 strict level 2//",
    "-//ietf//dtd html 2.0 strict//", "-//ietf//dtd html 2.0//", "-//ietf//dtd html 2.1e//",
    "-//ietf//dtd html 3.0//", "-//ietf//dtd html 3.2 final//", "-//ietf//dtd html 3.2//",
    "-//ietf//dtd html 3//", "-//ietf//dtd html level 0//", "-//ietf//dtd html level 1//",
    "-//ietf//dtd html level 2//", "-//ietf//dtd html level 3//",
    "-//ietf//dtd html strict level 0//", "-//ietf//dtd html strict level 1//",
    "-//ietf//dtd html strict level 2//", "-//ietf//dtd html strict level 3//",
    "-//ietf//dtd html strict//", "-//ietf//dtd html//",
    "-//metrius//dtd metrius presentational//",
    "-//microsoft//dtd internet explorer 2.0 html strict//",
    "-//microsoft//dtd internet explorer 2.0 html//",
    "-//microsoft//dtd internet explorer 2.0 tables//",
    "-//microsoft//dtd internet explorer 3.0 html strict//",
    "-//microsoft//dtd internet explorer 3.0 html//",
    "-//microsoft//dtd internet explorer 3.0 tables//",
    "-//netscape comm. corp.//dtd html//", "-//netscape comm. corp.//dtd strict html//",
    "-//o'reilly and associates//dtd html 2.0//",
    "-//o'reilly and associates//dtd html extended 1.0//",
    "-//o'reilly and associates//dtd html extended relaxed 1.0//",
    "-//sq//dtd html 2.0 hotmetal + extensions//",
    "-//softquad software//dtd hotmetal pro 6.0::19990601::extensions to html 4.0//",
    "-//softquad//dtd hotmetal pro 4.0::19971010::extensions to html 4.0//",
    "-//spyglass//dtd html 2.0 extended//", "-//sun microsystems corp.//dtd hotjava html//",
    "-//sun microsystems corp.//dtd hotjava strict html//",
    "-//w3c//dtd html 3 1995-03-24//", "-//w3c//dtd html 3.2 draft//",
    "-//w3c//dtd html 3.2 final//", "-//w3c//dtd html 3.2//", "-//w3c//dtd html 3.2s draft//",
    "-//w3c//dtd html 4.0 frameset//", "-//w3c//dtd html 4.0 transitional//",
    "-//w3c//dtd html experimental 19960712//", "-//w3c//dtd html experimental 970421//",
    "-//w3c//dtd w3 html//", "-//w3o//dtd w3 html 3.0//", "-//webtechs//dtd mozilla html 2.0//",
    "-//webtechs//dtd mozilla html//"]

/-- Beginnings of public identifiers that are old only without a system identifier. -/
def oldPublicAloneStarts : List String :=
  ["-//w3c//dtd html 4.01 frameset//", "-//w3c//dtd html 4.01 transitional//"]

/-- System identifiers of old pages. -/
def oldSystem : List String := ["http://www.ibm.com/data/dtd/v11/ibmxhtml1-transitional.dtd"]

/-- A text starts with one of several. -/
def startsWithOne (starts : List String) (s : String) : Bool :=
  starts.any fun start => (Text.afterLead? start.toList s.toList).isSome

/-- The layout that a doctype asks for. -/
def ofDoctype (d : Doctype) : Layout :=
  let publicId := d.publicId.map Text.lower
  let systemId := d.systemId.map Text.lower
  let byPublic (p : String → Bool) : Bool := (publicId.map p).getD false
  if d.broken || d.name != some "html" || byPublic oldPublic.contains ||
      (systemId.map oldSystem.contains).getD false || byPublic (startsWithOne oldPublicStarts) ||
      (byPublic (startsWithOne oldPublicAloneStarts) && systemId.isNone) then .legacy
  else .standard

end Gleaner.Html.Layout
