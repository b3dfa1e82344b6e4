import Gleaner.Html.Construction.Foreign
import Gleaner.Html.Construction.Formatting
import Gleaner.Html.Construction.Layout

set_option autoImplicit false

/-! # The rules of tree construction

Each mode is a function on tokens. Its answer is nothing when the token has been dealt with, or the
token itself when it meets the rules of the mode entered meanwhile. Modes that fall back on the
rules of another one come behind it, so no rule refers to a later one. -/

namespace Gleaner.Html

namespace Build

/-- What a rule answers: the token, if it is to meet the rules again. -/
abbrev Rule := Token → Build (Option Token)

/-- The token has been dealt with. -/
def done : Build (Option Token) := return none

/-- The token meets the rules of another mode. -/
def again (mode : Mode) (t : Token) : Build (Option Token) := do
  enter mode
  return some t

/-! ## The head -/

/-- A second start of the page adds attributes to the first. -/
def mergeOutermost (t : Tag) : Build (Option Token) := do
  if !(← isOpen "template") then
    match ← outermost with
    | some n =>
      modify fun b =>
        { b with page := b.page.addMissingAttributes n (plainAttributes t.attributes) }
    | none => pure ()
  done

/-- Start tags that have their rules in the head, wherever they stand. -/
def headTags : List String :=
  ["base", "basefont", "bgsound", "link", "meta", "noframes", "script", "style", "template", "title"]

/-- The end of a template. -/
def closeTemplate : Build (Option Token) := do
  if ← isOpen "template" then
    popWhile ElementGroup.thoroughImpliedEnd
    popThroughNamed "template"
    clearToMarker
    modify fun b => { b with templateModes := b.templateModes.drop 1 }
    resetMode
  done

/-- In the head. -/
def inHead : Rule := fun token => do
  let leave : Build (Option Token) := do
    pop
    again .afterHead token
  match token with
  | .blank s =>
    insertText s
    done
  | .comment s =>
    insertComment s
    done
  | .startTag t =>
    if t.name == "html" then mergeOutermost t
    else if t.isOneOf ["base", "basefont", "bgsound", "link", "meta"] then
      let _ ← insertClosed t
      done
    else if t.name == "title" then
      insertWithText t (.escapableText "title")
      done
    else if t.isOneOf ["noframes", "style", "noscript"] then
      insertWithText t (.rawText t.name)
      done
    else if t.name == "script" then
      insertWithText t .script
      done
    else if t.name == "template" then
      let _ ← insert t
      pushMarker
      forbidFrameset
      modify fun b => { b with mode := .inTemplate, templateModes := .inTemplate :: b.templateModes }
      done
    else if t.name == "head" then done
    else leave
  | .endTag t =>
    if t.name == "head" then
      pop
      enter .afterHead
      done
    else if t.isOneOf ["body", "html", "br"] then leave
    else if t.name == "template" then closeTemplate
    else done
  | _ => leave

/-! ## The body -/

/-- Start tags of blocks: they end a paragraph. -/
def blockTags : List String :=
  ["address", "article", "aside", "blockquote", "center", "details", "dialog", "dir", "div", "dl",
    "fieldset", "figcaption", "figure", "footer", "header", "hgroup", "main", "menu", "nav", "ol", "p",
    "section", "summary", "ul"]

/-- End tags of blocks: they close an element of their name in scope. -/
def blockEndTags : List String :=
  ["address", "article", "aside", "blockquote", "button", "center", "details", "dialog", "dir", "div",
    "dl", "fieldset", "figcaption", "figure", "footer", "header", "hgroup", "listing", "main", "menu",
    "nav", "ol", "pre", "section", "summary", "ul"]

/-- Tags of formatting elements. -/
def formattingTags : List String :=
  ["b", "big", "code", "em", "font", "i", "s", "small", "strike", "strong", "tt", "u"]

/-- An input that is not shown. -/
def isHiddenInput (t : Tag) : Bool :=
  t.attributes.any fun (name, value) => name == "type" && Text.lower value == "hidden"

/-- Closes the elements that an item of a list ends. -/
def closeItem (t : Tag) : Build Unit := do
  let closes := if t.name == "li" then ["li"] else ["dd", "dt"]
  match ← search closes (← get).openElements with
  | some name =>
    closeImpliedExcept name
    popThroughNamed name
  | none => pure ()
where
  /-- The name of the innermost item that is not shut in by a special element. -/
  search (closes : List String) : List Address → Build (Option String)
    | [] => return none
    | n :: rest => do
      match ← nameOf n with
      | none => search closes rest
      | some name =>
        if htmlElements closes name then return some name.localName
        else if ElementGroup.special name && !htmlElements ["address", "div", "p"] name then
          return none
        else search closes rest

/-- Opens an element of another language. -/
def enterForeign (space : Namespace) (t : Tag) : Build (Option Token) := do
  let n ← createElement ⟨space, t.name⟩ (Foreign.attributes space t.attributes)
  putHere n
  if !t.selfClosing then push n
  done

/-- Ends an open link before another one starts. -/
def closeLink : Build Unit := do
  match ← (Formatting.sinceMarker (← get).formatting).filterM
      fun (n, _) => isIn n (htmlElement "a") with
  | [] => return ()
  | (n, _) :: _ =>
    closeFormatting "a"
    forget n
    removeOpen n

/-- The start tag of a form. -/
def openForm (t : Tag) : Build (Option Token) := do
  let inTemplate ← isOpen "template"
  if (← get).form.isSome && !inTemplate then done
  else
    closeParagraphInScope
    let n ← insert t
    if !inTemplate then modify fun b => { b with form := some n }
    done

/-- The end tag of a form. -/
def closeForm : Build (Option Token) := do
  if ← isOpen "template" then
    if ← inScope ElementGroup.scope "form" then
      closeImplied
      popThroughNamed "form"
    done
  else
    match (← get).form with
    | none => done
    | some form =>
      modify fun b => { b with form := none }
      if ← findInScope ElementGroup.scope fun n => return n == form then
        closeImplied
        removeOpen form
      done

/-- A start tag in the body. -/
def startInBody (t : Tag) : Build (Option Token) := do
  let opened (before : Build Unit) : Build (Option Token) := do
    before
    let _ ← insert t
    done
  let closed : Build (Option Token) := do
    let _ ← insertClosed t
    done
  if t.name == "html" then mergeOutermost t
  else if t.isOneOf headTags then inHead (.startTag t)
  else if t.name == "body" then
    match ← body with
    | some n =>
      if !(← isOpen "template") then
        forbidFrameset
        modify fun b =>
          { b with page := b.page.addMissingAttributes n (plainAttributes t.attributes) }
    | none => pure ()
    done
  else if t.name == "frameset" then
    match ← body with
    | some n =>
      if (← get).framesetAllowed then
        modify fun b =>
          { b with
            page := b.page.detach n
            openElements := b.openElements.drop (b.openElements.length - 1) }
        let _ ← insert t
        enter .inFrameset
    | none => pure ()
    done
  else if t.isOneOf blockTags then opened closeParagraphInScope
  else if t.isOneOf ["h1", "h2", "h3", "h4", "h5", "h6"] then
    opened do
      closeParagraphInScope
      if ← currentIsIn ElementGroup.headings then pop
  else if t.isOneOf ["pre", "listing"] then
    closeParagraphInScope
    let _ ← insert t
    modify fun b => { b with skipLineFeed := true, framesetAllowed := false }
    done
  else if t.name == "form" then openForm t
  else if t.isOneOf ["li", "dd", "dt"] then
    opened do
      forbidFrameset
      closeItem t
      closeParagraphInScope
  else if t.name == "plaintext" then
    closeParagraphInScope
    let _ ← insert t
    modify fun b => { b with content := .plainText }
    done
  else if t.name == "button" then
    opened do
      if ← inScope ElementGroup.scope "button" then
        closeImplied
        popThroughNamed "button"
      reconstruct
      forbidFrameset
  else if t.name == "a" then
    closeLink
    reconstruct
    insertFormatting t
    done
  else if t.isOneOf formattingTags then
    reconstruct
    insertFormatting t
    done
  else if t.name == "nobr" then
    reconstruct
    if ← inScope ElementGroup.scope "nobr" then
      closeFormatting "nobr"
      reconstruct
    insertFormatting t
    done
  else if t.isOneOf ["applet", "marquee", "object"] then
    reconstruct
    let _ ← insert t
    pushMarker
    forbidFrameset
    done
  else if t.name == "table" then
    if (← get).layout != .legacy then closeParagraphInScope
    let _ ← insert t
    forbidFrameset
    enter .inTable
    done
  else if t.isOneOf ["area", "br", "embed", "img", "keygen", "wbr", "input"] then
    reconstruct
    if !(t.name == "input" && isHiddenInput t) then forbidFrameset
    closed
  else if t.isOneOf ["param", "source", "track"] then closed
  else if t.name == "hr" then
    closeParagraphInScope
    forbidFrameset
    closed
  else if t.name == "image" then
    reconstruct
    forbidFrameset
    let _ ← insertClosed { t with name := "img" }
    done
  else if t.name == "textarea" then
    insertWithText t (.escapableText "textarea")
    modify fun b => { b with skipLineFeed := true, framesetAllowed := false }
    done
  else if t.name == "xmp" then
    closeParagraphInScope
    reconstruct
    forbidFrameset
    insertWithText t (.rawText "xmp")
    done
  else if t.name == "iframe" then
    forbidFrameset
    insertWithText t (.rawText "iframe")
    done
  else if t.isOneOf ["noembed", "noscript"] then
    insertWithText t (.rawText t.name)
    done
  else if t.name == "select" then
    reconstruct
    let _ ← insert t
    forbidFrameset
    let mode := (← get).mode
    enter (if [.inTable, .inCaption, .inTableBody, .inRow, .inCell].contains mode
      then .inSelectInTable else .inSelect)
    done
  else if t.isOneOf ["optgroup", "option"] then
    opened do
      if ← currentIs "option" then pop
      reconstruct
  else if t.isOneOf ["rb", "rtc"] then
    opened do if ← inScope ElementGroup.scope "ruby" then closeImplied
  else if t.isOneOf ["rp", "rt"] then
    opened do if ← inScope ElementGroup.scope "ruby" then closeImpliedExcept "rtc"
  else if t.name == "math" then enterForeign .mathml t
  else if t.name == "svg" then enterForeign .svg t
  else if t.isOneOf ["caption", "col", "colgroup", "frame", "head", "tbody", "td", "tfoot", "th",
      "thead", "tr"] then done
  else opened reconstruct

/-- An end tag in the body. -/
def endInBody (t : Tag) : Build (Option Token) := do
  let closing (scope : ElementGroup) (after : Build Unit) : Build (Option Token) := do
    if ← inScope scope t.name then
      closeImplied
      popThroughNamed t.name
      after
    done
  if t.name == "template" then closeTemplate
  else if t.name == "body" then
    if ← inScope ElementGroup.scope "body" then enter .afterBody
    done
  else if t.name == "html" then
    if ← inScope ElementGroup.scope "body" then again .afterBody (.endTag t) else done
  else if t.isOneOf blockEndTags then closing ElementGroup.scope (pure ())
  else if t.name == "form" then closeForm
  else if t.name == "p" then
    if !(← inScope ElementGroup.buttonScope "p") then
      let _ ← insertNamed "p"
    closeParagraph
    done
  else if t.isOneOf ["li", "dd", "dt"] then
    let scope := if t.name == "li" then ElementGroup.listItemScope else ElementGroup.scope
    if ← inScope scope t.name then
      closeImpliedExcept t.name
      popThroughNamed t.name
    done
  else if t.isOneOf ["h1", "h2", "h3", "h4", "h5", "h6"] then
    if ← findInScope ElementGroup.scope fun n => isIn n ElementGroup.headings then
      closeImplied
      popThrough ElementGroup.headings
    done
  else if t.isOneOf ("a" :: "nobr" :: formattingTags) then
    closeFormatting t.name
    done
  else if t.isOneOf ["applet", "marquee", "object"] then closing ElementGroup.scope clearToMarker
  else if t.name == "br" then startInBody { name := "br" }
  else
    closeOrdinary t.name
    done

/-- The end of the page in a template: the template ends as well. -/
def endInTemplate : Build (Option Token) := do
  if ← isOpen "template" then
    popThroughNamed "template"
    clearToMarker
    modify fun b => { b with templateModes := b.templateModes.drop 1 }
    resetMode
    return some .endOfInput
  else done

/-- In the body. -/
def inBody : Rule := fun token => do
  match token with
  | .blank s =>
    reconstruct
    insertText s
    done
  | .text s =>
    reconstruct
    forbidFrameset
    insertText s
    done
  | .comment s =>
    insertComment s
    done
  | .startTag t => startInBody t
  | .endTag t => endInBody t
  | .endOfInput => if (← get).templateModes.isEmpty then done else endInTemplate
  | .null | .doctype _ => done

/-! ## Before the body -/

/-- Before anything. -/
def initial : Rule := fun token => do
  match token with
  | .blank _ => done
  | .comment s =>
    appendCommentToRoot s
    done
  | _ =>
    modify fun b => { b with layout := .legacy }
    again .beforeHtml token

/-- Before the outermost element. -/
def beforeHtml : Rule := fun token => do
  let start : Build (Option Token) := do
    createOutermost []
    again .beforeHead token
  match token with
  | .blank _ => done
  | .comment s =>
    appendCommentToRoot s
    done
  | .startTag t =>
    if t.name == "html" then
      createOutermost t.attributes
      enter .beforeHead
      done
    else start
  | .endTag t => if t.isOneOf ["head", "body", "html", "br"] then start else done
  | _ => start

/-- Before the head. -/
def beforeHead : Rule := fun token => do
  let start : Build (Option Token) := do
    let n ← insertNamed "head"
    modify fun b => { b with head := some n }
    again .inHead token
  match token with
  | .blank _ => done
  | .comment s =>
    insertComment s
    done
  | .startTag t =>
    if t.name == "html" then mergeOutermost t
    else if t.name == "head" then
      let n ← insert t
      modify fun b => { b with head := some n, mode := .inHead }
      done
    else start
  | .endTag t => if t.isOneOf ["head", "body", "html", "br"] then start else done
  | _ => start

/-- Between head and body. What belongs into the head still goes there. -/
def afterHead : Rule := fun token => do
  let start : Build (Option Token) := do
    let _ ← insertNamed "body"
    again .inBody token
  match token with
  | .blank s =>
    insertText s
    done
  | .comment s =>
    insertComment s
    done
  | .startTag t =>
    if t.name == "html" then mergeOutermost t
    else if t.name == "body" then
      let _ ← insert t
      forbidFrameset
      enter .inBody
      done
    else if t.name == "frameset" then
      let _ ← insert t
      enter .inFrameset
      done
    else if t.isOneOf headTags then
      match (← get).head with
      | none => start
      | some head =>
        push head
        let answer ← inHead token
        removeOpen head
        return answer
    else if t.name == "head" then done
    else start
  | .endTag t =>
    if t.name == "template" then closeTemplate
    else if t.isOneOf ["body", "html", "br"] then start
    else done
  | _ => start

/-- In an element whose content is text. -/
def inText : Rule := fun token => do
  let leave : Build Unit := do
    pop
    modify fun b => { b with mode := b.returnMode, content := .markup }
  match token with
  | .blank s | .text s =>
    insertText s
    done
  | .endOfInput =>
    leave
    return some token
  | _ =>
    leave
    done

/-! ## Tables -/

/-- Lets a token meet the rules of the body, with its nodes going before the table. -/
def foster (token : Token) : Build (Option Token) := do
  modify fun b => { b with fostering := true }
  let answer ← inBody token
  modify fun b => { b with fostering := false }
  return answer

/-- Text in a table is collected before it is decided where it goes. -/
def collectTableText (token : Token) : Build (Option Token) := do
  if ← currentIsIn ElementGroup.tableParts then
    modify fun b => { b with returnMode := b.mode, mode := .inTableText }
    return some token
  else foster token

/-- In a table. -/
def inTable : Rule := fun token => do
  match token with
  | .blank _ | .text _ | .null => collectTableText token
  | .comment s =>
    insertComment s
    done
  | .startTag t =>
    let opened (mode : Mode) : Build (Option Token) := do
      let _ ← insert t
      enter mode
      done
    if t.name == "caption" then
      popTo ElementGroup.tableScope
      pushMarker
      opened .inCaption
    else if t.name == "colgroup" then
      popTo ElementGroup.tableScope
      opened .inColumnGroup
    else if t.name == "col" then
      popTo ElementGroup.tableScope
      let _ ← insertNamed "colgroup"
      again .inColumnGroup token
    else if t.isOneOf ["tbody", "tfoot", "thead"] then
      popTo ElementGroup.tableScope
      opened .inTableBody
    else if t.isOneOf ["td", "th", "tr"] then
      popTo ElementGroup.tableScope
      let _ ← insertNamed "tbody"
      again .inTableBody token
    else if t.name == "table" then
      if ← inScope ElementGroup.tableScope "table" then
        popThroughNamed "table"
        again (← openMode) token
      else done
    else if t.isOneOf ["style", "script", "template"] then inHead token
    else if t.name == "input" && isHiddenInput t then
      let _ ← insertClosed t
      done
    else if t.name == "form" then
      if !(← isOpen "template") && (← get).form.isNone then
        let n ← insertClosed t
        modify fun b => { b with form := some n }
      done
    else foster token
  | .endTag t =>
    if t.name == "table" then
      if ← inScope ElementGroup.tableScope "table" then
        popThroughNamed "table"
        resetMode
      done
    else if t.isOneOf ["body", "caption", "col", "colgroup", "html", "tbody", "td", "tfoot", "th",
        "thead", "tr"] then done
    else if t.name == "template" then closeTemplate
    else foster token
  | .endOfInput => inBody token
  | .doctype _ => done

/-- In the text of a table. Text that is not blank goes before the table. -/
def inTableText : Rule := fun token => do
  match token with
  | .null => done
  | .blank s =>
    modify fun b => { b with tableText := (true, s) :: b.tableText }
    done
  | .text s =>
    modify fun b => { b with tableText := (false, s) :: b.tableText }
    done
  | _ =>
    let pending := (← get).tableText.reverse
    modify fun b => { b with tableText := [] }
    if pending.all (·.1) then pending.forM fun (_, s) => insertText s
    else
      pending.forM fun (isBlank, s) => do
        let _ ← foster (if isBlank then .blank s else .text s)
    again (← get).returnMode token

/-- In the caption of a table. -/
def inCaption : Rule := fun token => do
  let leave : Build Bool := do
    if ← inScope ElementGroup.tableScope "caption" then
      closeImplied
      popThroughNamed "caption"
      clearToMarker
      enter .inTable
      return true
    else return false
  match token with
  | .startTag t =>
    if t.isOneOf ["caption", "col", "colgroup", "tbody", "td", "tfoot", "th", "thead", "tr"] then
      if ← leave then return some token else done
    else inBody token
  | .endTag t =>
    if t.name == "caption" then
      let _ ← leave
      done
    else if t.name == "table" then
      if ← leave then return some token else done
    else if t.isOneOf ["body", "col", "colgroup", "html", "tbody", "td", "tfoot", "th", "thead",
        "tr"] then done
    else inBody token
  | _ => inBody token

/-- In a group of columns. -/
def inColumnGroup : Rule := fun token => do
  let leave : Build (Option Token) := do
    if ← currentIs "colgroup" then
      pop
      again .inTable token
    else done
  match token with
  | .blank s =>
    insertText s
    done
  | .comment s =>
    insertComment s
    done
  | .startTag t =>
    if t.name == "html" then mergeOutermost t
    else if t.name == "col" then
      let _ ← insertClosed t
      done
    else if t.name == "template" then inHead token
    else leave
  | .endTag t =>
    if t.name == "colgroup" then
      if ← currentIs "colgroup" then
        pop
        enter .inTable
      done
    else if t.name == "col" then done
    else if t.name == "template" then closeTemplate
    else leave
  | .endOfInput => inBody token
  | _ => leave

/-- In the body of a table. -/
def inTableBody : Rule := fun token => do
  let leave : Build (Option Token) := do
    if ← findInScope ElementGroup.tableScope fun n =>
        isIn n (htmlElements ["table", "tbody", "tfoot"]) then
      popTo ElementGroup.tableBodyContext
      pop
      again .inTable token
    else done
  match token with
  | .startTag t =>
    if t.name == "tr" then
      popTo ElementGroup.tableBodyContext
      let _ ← insert t
      enter .inRow
      done
    else if t.isOneOf ["th", "td"] then
      popTo ElementGroup.tableBodyContext
      let _ ← insertNamed "tr"
      again .inRow token
    else if t.isOneOf ["caption", "col", "colgroup", "tbody", "tfoot", "thead"] then leave
    else inTable token
  | .endTag t =>
    if t.isOneOf ["tbody", "tfoot", "thead"] then
      if ← inScope ElementGroup.tableScope t.name then
        popTo ElementGroup.tableBodyContext
        pop
        enter .inTable
      done
    else if t.name == "table" then leave
    else if t.isOneOf ["body", "caption", "col", "colgroup", "html", "td", "th", "tr"] then done
    else inTable token
  | _ => inTable token

/-- In a row of a table. -/
def inRow : Rule := fun token => do
  let leave : Build Bool := do
    if ← inScope ElementGroup.tableScope "tr" then
      popTo ElementGroup.tableRowContext
      pop
      enter .inTableBody
      return true
    else return false
  match token with
  | .startTag t =>
    if t.isOneOf ["th", "td"] then
      popTo ElementGroup.tableRowContext
      let _ ← insert t
      enter .inCell
      pushMarker
      done
    else if t.isOneOf ["caption", "col", "colgroup", "tbody", "tfoot", "thead", "tr"] then
      if ← leave then return some token else done
    else inTable token
  | .endTag t =>
    if t.name == "tr" then
      let _ ← leave
      done
    else if t.name == "table" then
      if ← leave then return some token else done
    else if t.isOneOf ["tbody", "tfoot", "thead"] then
      if ← inScope ElementGroup.tableScope t.name then
        if ← leave then return some token else done
      else done
    else if t.isOneOf ["body", "caption", "col", "colgroup", "html", "td", "th"] then done
    else inTable token
  | _ => inTable token

/-- In a cell of a table. -/
def inCell : Rule := fun token => do
  let leave : Build (Option Token) := do
    closeImplied
    popThrough ElementGroup.cells
    clearToMarker
    again .inRow token
  match token with
  | .startTag t =>
    if t.isOneOf ["caption", "col", "colgroup", "tbody", "td", "tfoot", "th", "thead", "tr"] then
      if ← findInScope ElementGroup.tableScope fun n => isIn n ElementGroup.cells then leave
      else done
    else inBody token
  | .endTag t =>
    if t.isOneOf ["td", "th"] then
      if ← inScope ElementGroup.tableScope t.name then
        closeImplied
        popThroughNamed t.name
        clearToMarker
        enter .inRow
      done
    else if t.isOneOf ["body", "caption", "col", "colgroup", "html"] then done
    else if t.isOneOf ["table", "tbody", "tfoot", "thead", "tr"] then
      if ← inScope ElementGroup.tableScope t.name then leave else done
    else inBody token
  | _ => inBody token

/-! ## Selections and templates -/

/-- In a selection. -/
def inSelect : Rule := fun token => do
  let popIf (name : String) : Build Unit := do if ← currentIs name then pop
  match token with
  | .blank s | .text s =>
    insertText s
    done
  | .comment s =>
    insertComment s
    done
  | .startTag t =>
    if t.name == "html" then mergeOutermost t
    else if t.name == "option" then
      popIf "option"
      let _ ← insert t
      done
    else if t.name == "optgroup" then
      popIf "option"
      popIf "optgroup"
      let _ ← insert t
      done
    else if t.name == "hr" then
      popIf "option"
      popIf "optgroup"
      let _ ← insertClosed t
      done
    else if t.name == "select" then
      if ← inScope ElementGroup.selectScope "select" then
        popThroughNamed "select"
        resetMode
      done
    else if t.isOneOf ["input", "keygen", "textarea"] then
      if ← inScope ElementGroup.selectScope "select" then
        popThroughNamed "select"
        again (← openMode) token
      else done
    else if t.isOneOf ["script", "template"] then inHead token
    else done
  | .endTag t =>
    if t.name == "optgroup" then
      match (← get).openElements with
      | _ :: n :: _ =>
        if (← currentIs "option") && (← isIn n (htmlElement "optgroup")) then pop
      | _ => pure ()
      popIf "optgroup"
      done
    else if t.name == "option" then
      popIf "option"
      done
    else if t.name == "select" then
      if ← inScope ElementGroup.selectScope "select" then
        popThroughNamed "select"
        resetMode
      done
    else if t.name == "template" then closeTemplate
    else done
  | .endOfInput => inBody token
  | .null | .doctype _ => done

/-- In a selection in a table. -/
def inSelectInTable : Rule := fun token => do
  let parts := ["caption", "table", "tbody", "tfoot", "thead", "tr", "td", "th"]
  match token with
  | .startTag t =>
    if t.isOneOf parts then
      popThroughNamed "select"
      again (← openMode) token
    else inSelect token
  | .endTag t =>
    if t.isOneOf parts then
      if ← inScope ElementGroup.tableScope t.name then
        popThroughNamed "select"
        again (← openMode) token
      else done
    else inSelect token
  | _ => inSelect token

/-- In a template: the first tag decides what the template holds. -/
def inTemplate : Rule := fun token => do
  let holds (mode : Mode) : Build (Option Token) := do
    modify fun b => { b with templateModes := mode :: b.templateModes.drop 1 }
    again mode token
  match token with
  | .blank _ | .text _ | .comment _ => inBody token
  | .startTag t =>
    if t.isOneOf headTags then inHead token
    else if t.isOneOf ["caption", "colgroup", "tbody", "tfoot", "thead"] then holds .inTable
    else if t.name == "col" then holds .inColumnGroup
    else if t.name == "tr" then holds .inTableBody
    else if t.isOneOf ["td", "th"] then holds .inRow
    else holds .inBody
  | .endTag t => if t.name == "template" then closeTemplate else done
  | .endOfInput => endInTemplate
  | .null | .doctype _ => done

/-! ## Behind the body -/

/-- Behind the body. -/
def afterBody : Rule := fun token => do
  match token with
  | .blank _ => inBody token
  | .comment s =>
    appendCommentToOutermost s
    done
  | .startTag t => if t.name == "html" then mergeOutermost t else again .inBody token
  | .endTag t =>
    if t.name == "html" then
      if !(← isPiece) then enter .afterAfterBody
      done
    else again .inBody token
  | .endOfInput => done
  | _ => again .inBody token

/-- In a frameset. -/
def inFrameset : Rule := fun token => do
  match token with
  | .blank s =>
    insertText s
    done
  | .comment s =>
    insertComment s
    done
  | .startTag t =>
    if t.name == "html" then mergeOutermost t
    else if t.name == "frameset" then
      let _ ← insert t
      done
    else if t.name == "frame" then
      let _ ← insertClosed t
      done
    else if t.name == "noframes" then inHead token
    else done
  | .endTag t =>
    if t.name == "frameset" && 1 < (← get).openElements.length then
      pop
      if !(← isPiece) && !(← currentIs "frameset") then enter .afterFrameset
    done
  | _ => done

/-- Behind a frameset. -/
def afterFrameset : Rule := fun token => do
  match token with
  | .blank s =>
    insertText s
    done
  | .comment s =>
    insertComment s
    done
  | .startTag t =>
    if t.name == "html" then mergeOutermost t
    else if t.name == "noframes" then inHead token
    else done
  | .endTag t =>
    if t.name == "html" then enter .afterAfterFrameset
    done
  | _ => done

/-- Behind the outermost element. -/
def afterAfterBody : Rule := fun token => do
  match token with
  | .blank _ => inBody token
  | .comment s =>
    appendCommentToRoot s
    done
  | .startTag t => if t.name == "html" then mergeOutermost t else again .inBody token
  | .endOfInput => done
  | _ => again .inBody token

/-- Behind the outermost element of a page of frames. -/
def afterAfterFrameset : Rule := fun token => do
  match token with
  | .blank _ => inBody token
  | .comment s =>
    appendCommentToRoot s
    done
  | .startTag t =>
    if t.name == "html" then mergeOutermost t
    else if t.name == "noframes" then inHead token
    else done
  | _ => done

/-! ## Choosing the rules -/

/-- The rules of a mode. -/
def rulesOf : Mode → Rule
  | .initial => initial
  | .beforeHtml => beforeHtml
  | .beforeHead => beforeHead
  | .inHead => inHead
  | .afterHead => afterHead
  | .inBody => inBody
  | .text => inText
  | .inTable => inTable
  | .inTableText => inTableText
  | .inCaption => inCaption
  | .inColumnGroup => inColumnGroup
  | .inTableBody => inTableBody
  | .inRow => inRow
  | .inCell => inCell
  | .inSelect => inSelect
  | .inSelectInTable => inSelectInTable
  | .inTemplate => inTemplate
  | .afterBody => afterBody
  | .inFrameset => inFrameset
  | .afterFrameset => afterFrameset
  | .afterAfterBody => afterAfterBody
  | .afterAfterFrameset => afterAfterFrameset

/-- An end tag in a foreign element closes the innermost element of its name, in any letter case. An
element of HTML on the way hands it to the rules of the mode. -/
def endInForeign (t : Tag) : Build (Option Token) := do
  search true (← get).openElements
where
  /-- Goes from element to element; the first may be of any language. -/
  search (isFirst : Bool) : List Address → Build (Option Token)
    | [] | [_] => done
    | n :: rest => do
      match ← nameOf n with
      | none => done
      | some name =>
        if !isFirst && name.space == .html then rulesOf (← get).mode (.endTag t)
        else if Text.lower name.localName == Text.lower t.name then
          modify fun b => { b with openElements := rest }
          done
        else search false rest

/-- In a foreign element. -/
def inForeign : Rule := fun token => do
  match token with
  | .null =>
    insertText (String.singleton Token.replacement)
    done
  | .blank s =>
    insertText s
    done
  | .text s =>
    forbidFrameset
    insertText s
    done
  | .comment s =>
    insertComment s
    done
  | .startTag t =>
    if Foreign.breaksOut t then
      popTo fun e => e.space == .html || ElementGroup.mathTextPoint e || ElementGroup.svgHtmlPoint e
      rulesOf (← get).mode token
    else
      match ← adjustedCurrent with
      | none => done
      | some around =>
        let n ← createElement (Foreign.elementName around.space t.name)
          (Foreign.attributes around.space t.attributes)
        putHere n
        if !t.selfClosing then push n
        done
  | .endTag t =>
    if t.isOneOf ["br", "p"] then
      popTo fun e => e.space == .html || ElementGroup.mathTextPoint e || ElementGroup.svgHtmlPoint e
      rulesOf (← get).mode token
    else endInForeign t
  | .doctype _ | .endOfInput => done

/-- The token meets the rules for foreign elements. -/
def isForeign (token : Token) : Build Bool := do
  match ← adjustedCurrent with
  | none => return false
  | some around =>
    if around.space == .html then return false
    else
      let isText := match token with
        | .blank _ | .text _ | .null => true
        | _ => false
      match token with
      | .endOfInput => return false
      | .startTag t =>
        if ElementGroup.mathTextPoint around && !t.isOneOf ["mglyph", "malignmark"] then return false
        else if ElementGroup.svgHtmlPoint around then return false
        else if around == ⟨.mathml, "annotation-xml"⟩ && t.name == "svg" then return false
        else return true
      | _ =>
        return !(isText && (ElementGroup.mathTextPoint around || ElementGroup.svgHtmlPoint around))

/-- Lets a token meet the rules once: those for foreign elements, or else those of the mode. -/
def meetOnce : Rule := fun token => do
  if ← isForeign token then inForeign token else rulesOf (← get).mode token

/-- Lets a token meet the rules until it is dealt with. Every further round closes an element or goes
on to a later mode, so the rounds are bounded by the open elements and the modes. -/
def meet : Nat → Token → Build Unit
  | 0, _ => return ()
  | fuel + 1, token => do
    match ← meetOnce token with
    | some token => meet fuel token
    | none => return ()

/-- The first characters of a text without a line feed at its start. -/
def withoutLineFeed : Token → Option Token
  | .blank s =>
    match s.toList with
    | '\n' :: [] => none
    | '\n' :: rest => some (.blank (String.ofList rest))
    | _ => some (.blank s)
  | token => some token

/-- Takes in one token. -/
def process (token : Token) : Build Unit := do
  let b ← get
  set { b with skipLineFeed := false }
  match token with
  | .doctype d =>
    if b.mode == .initial then
      put (.lastIn Page.root) (← create (.doctype (d.name.getD "")))
      modify fun b => { b with layout := Layout.ofDoctype d, mode := .beforeHtml }
  | _ =>
    match if b.skipLineFeed then withoutLineFeed token else some token with
    | some token => meet (2 * b.openElements.length + 64) token
    | none => return ()

end Build

end Gleaner.Html
