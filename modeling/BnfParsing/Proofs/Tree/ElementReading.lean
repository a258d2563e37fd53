import BnfParsing.Proofs.Text.Words
import BnfParsing.Tree.Markup

/-!
Contract: a reader of written elements, which gives back what was written.

The text is cut in front of each tag. A tag is read together with the text behind
it, in which the five entities stand for the characters that they escape. From tags
and texts the elements are built with a stack of those that are still open.

Owns: elements with the texts in and behind them, their written form, the reader,
and that it inverts the writing.

Does not own: which elements stand for a tree, or white space between elements.
-/

set_option autoImplicit false

namespace BnfParsing.Markup

/-! ## Texts between tags -/

/-- The text with its entities decoded, if there is no other use of `&`. -/
def unescape : Text → Option Text
  | [] => some []
  | '&' :: 'a' :: 'm' :: 'p' :: ';' :: rest => (unescape rest).map ('&' :: ·)
  | '&' :: 'l' :: 't' :: ';' :: rest => (unescape rest).map ('<' :: ·)
  | '&' :: 'g' :: 't' :: ';' :: rest => (unescape rest).map ('>' :: ·)
  | '&' :: 'q' :: 'u' :: 'o' :: 't' :: ';' :: rest => (unescape rest).map ('"' :: ·)
  | '&' :: 'a' :: 'p' :: 'o' :: 's' :: ';' :: rest => (unescape rest).map ('\'' :: ·)
  | '&' :: _ => none
  | character :: rest => (unescape rest).map (character :: ·)

theorem escape_append (front back : Text) : escape (front ++ back) = escape front ++ escape back :=
  List.flatMap_append

theorem unescape_escapeChar (character : Char) (rest : Text) :
    unescape (escapeChar character ++ rest) = (unescape rest).map (character :: ·) := by
  unfold escapeChar
  split
  next => rfl
  next => rfl
  next => rfl
  next => rfl
  next => rfl
  next noAmpersand _ _ _ _ =>
    rw [List.singleton_append, unescape]
    all_goals
      intros
      exact noAmpersand ‹_›

theorem unescape_escape (text : Text) : unescape (escape text) = some text := by
  induction text with
  | nil => rfl
  | cons character rest inductionHypothesis =>
      show unescape (escapeChar character ++ escape rest) = _
      rw [unescape_escapeChar, inductionHypothesis]
      rfl

/-- An escaped text holds no end of a tag. -/
theorem not_mem_escape (text : Text) : '<' ∉ escape text ∧ '>' ∉ escape text := by
  have each : ∀ character : Char, '<' ∉ escapeChar character ∧ '>' ∉ escapeChar character := by
    intro character
    unfold escapeChar
    split
    next => decide
    next => decide
    next => decide
    next => decide
    next => decide
    next _ noLess noGreater _ _ =>
      simp only [List.mem_singleton]
      exact ⟨fun same => noLess same.symm, fun same => noGreater same.symm⟩
  simp only [escape, List.mem_flatMap, not_exists, not_and]
  exact ⟨fun character _ => (each character).1, fun character _ => (each character).2⟩

/-! ## Tags -/

/-- The elements of a written tree. -/
inductive ElementKind where
  | node
  | name
  | token
deriving DecidableEq, Repr

/-- The name in the tags of an element. -/
def ElementKind.tagName : ElementKind → Text
  | .node => "node".toList
  | .name => "name".toList
  | .token => "token".toList

/-- The start or the end of an element. -/
inductive Tag where
  | opening (kind : ElementKind)
  | closing (kind : ElementKind)
deriving DecidableEq, Repr

namespace Tag

/-- What stands between `<` and `>`. -/
def text : Tag → Text
  | .opening kind => kind.tagName
  | .closing kind => '/' :: kind.tagName

def written (tag : Tag) : Text :=
  '<' :: tag.text ++ ['>']

def all : List Tag :=
  [.opening .node, .opening .name, .opening .token, .closing .node, .closing .name,
    .closing .token]

def read? (text : Text) : Option Tag :=
  all.find? fun tag => tag.text == text

theorem read?_text (tag : Tag) : read? tag.text = some tag := by
  rcases tag with kind | kind <;> cases kind <;> rfl

theorem not_mem_text (tag : Tag) : '<' ∉ tag.text ∧ '>' ∉ tag.text := by
  rcases tag with kind | kind <;> cases kind <;> decide

theorem not_mem_written (tag : Tag) : '\n' ∉ tag.written ∧ '\r' ∉ tag.written := by
  rcases tag with kind | kind <;> cases kind <;> decide

end Tag

/-- A tag and the text between it and the next one. -/
structure Piece where
  tag : Tag
  after : Text
deriving DecidableEq, Repr

namespace Piece

/-- The written form without the `<` in front, which marks the place of a cut. -/
def body (piece : Piece) : Text :=
  piece.tag.text ++ '>' :: escape piece.after

def writeAll (pieces : List Piece) : Text :=
  pieces.flatMap fun piece => '<' :: piece.body

theorem writeAll_cons (piece : Piece) (others : List Piece) :
    writeAll (piece :: others) =
      piece.tag.written ++ (escape piece.after ++ writeAll others) := by
  rw [writeAll, List.flatMap_cons, body, ← writeAll, Tag.written]
  simp only [List.append_assoc, List.cons_append, List.nil_append]

theorem writeAll_append (front back : List Piece) :
    writeAll (front ++ back) = writeAll front ++ writeAll back :=
  List.flatMap_append

/-- The piece that is written between two cuts. -/
def read? (text : Text) : Option Piece :=
  match Text.splitOn '>' text with
  | [tag, after] => do return ⟨← Tag.read? tag, ← unescape after⟩
  | _ => none

theorem read?_body (piece : Piece) : read? piece.body = some piece := by
  have split : Text.splitOn '>' piece.body = [piece.tag.text, escape piece.after] := by
    rw [Text.splitOn_eq, body, List.splitOn_append_cons_self,
      List.splitOn_eq_singleton piece.tag.not_mem_text.2,
      List.splitOn_eq_singleton (not_mem_escape piece.after).2, List.singleton_append]
  rw [read?, split]
  simp only [Tag.read?_text, unescape_escape, Option.bind_eq_bind, Option.bind_some]
  rfl

theorem mapM_read? (pieces : List Piece) : (pieces.map body).mapM read? = some pieces := by
  induction pieces with
  | nil => rfl
  | cons piece others inductionHypothesis =>
      rw [List.map_cons, List.mapM_cons, read?_body, inductionHypothesis]
      rfl

theorem splitOn_writeAll (pieces : List Piece) :
    Text.splitOn '<' (writeAll pieces) = [] :: pieces.map body := by
  -- by induction on the pieces, behind the body of the piece before them
  have general : ∀ (pieces : List Piece) (front : Text), '<' ∉ front →
      List.splitOn '<' (front ++ writeAll pieces) = front :: pieces.map body := by
    intro pieces
    induction pieces with
    | nil =>
        intro front plain
        rw [writeAll, List.flatMap_nil, List.append_nil]
        exact List.splitOn_eq_singleton plain
    | cons piece others inductionHypothesis =>
        intro front plain
        have plainBody : '<' ∉ piece.body := by
          rw [body, List.mem_append, List.mem_cons, not_or, not_or]
          exact ⟨piece.tag.not_mem_text.1, by decide, (not_mem_escape piece.after).1⟩
        rw [writeAll, List.flatMap_cons, List.cons_append, List.splitOn_append_cons_self,
          List.splitOn_eq_singleton plain, List.singleton_append, List.map_cons]
        exact congrArg (front :: ·) (inductionHypothesis piece.body plainBody)
  rw [Text.splitOn_eq]
  exact general pieces [] List.not_mem_nil

end Piece

/-! ## Elements -/

/-- An element with the text up to its first child, its children, and the text
behind its end. -/
inductive Element where
  | mk (kind : ElementKind) (text : Text) (children : List Element) (after : Text)

namespace Element

def after : Element → Text
  | .mk _ _ _ after => after

mutual

/-- The tags and texts of an element in the order in which they are written. -/
def pieces : Element → List Piece
  | .mk kind text children after =>
      ⟨.opening kind, text⟩ :: (piecesAll children ++ [⟨.closing kind, after⟩])

def piecesAll : List Element → List Piece
  | [] => []
  | element :: others => element.pieces ++ piecesAll others

end

def writeAll (elements : List Element) : Text :=
  Piece.writeAll (piecesAll elements)

end Element

/-- An element whose end is not read yet, with the elements in front of it. -/
structure Opened where
  kind : ElementKind
  text : Text
  before : List Element

/-- The elements read so far in the innermost open element, the latest first, and
the open elements, the innermost first. -/
structure Reading where
  done : List Element
  enclosing : List Opened

/-- Reads one more tag with the text behind it. An end fits the innermost open
element only. -/
def Reading.next? (reading : Reading) : Piece → Option Reading
  | ⟨.opening kind, text⟩ => some ⟨[], ⟨kind, text, reading.done⟩ :: reading.enclosing⟩
  | ⟨.closing kind, after⟩ =>
      match reading.enclosing with
      | [] => none
      | opened :: others =>
          if opened.kind = kind then
            some ⟨.mk kind opened.text reading.done.reverse after :: opened.before, others⟩
          else none

theorem Reading.next?_opening (reading : Reading) (kind : ElementKind) (text : Text) :
    reading.next? ⟨.opening kind, text⟩ =
      some ⟨[], ⟨kind, text, reading.done⟩ :: reading.enclosing⟩ := rfl

theorem Reading.next?_closing (kind : ElementKind) (text after : Text)
    (done before : List Element) (others : List Opened) :
    Reading.next? ⟨done, ⟨kind, text, before⟩ :: others⟩ ⟨.closing kind, after⟩ =
      some ⟨.mk kind text done.reverse after :: before, others⟩ :=
  if_pos rfl

/-- The elements of a text that starts with a tag, if each of them is ended. -/
def readElements (text : Text) : Option (List Element) :=
  match Text.splitOn '<' text with
  | [] :: bodies => do
      let pieces ← bodies.mapM Piece.read?
      let reading ← pieces.foldlM Reading.next? ⟨[], []⟩
      if reading.enclosing.isEmpty then some reading.done.reverse else none
  | _ => none

mutual

/-- Reading what is written of an element adds the element, whatever is open. -/
theorem foldlM_pieces : ∀ (element : Element) (done : List Element) (enclosing : List Opened),
    element.pieces.foldlM Reading.next? ⟨done, enclosing⟩ = some ⟨element :: done, enclosing⟩
  | .mk kind text children after, done, enclosing => by
      -- the children are read with nothing done; what was done waits with the opened element
      have inner := foldlM_piecesAll children [] (⟨kind, text, done⟩ :: enclosing)
      rw [List.append_nil] at inner
      unfold Element.pieces
      rw [List.foldlM_cons, Reading.next?_opening]
      show (Element.piecesAll children ++ _).foldlM Reading.next?
        ⟨[], ⟨kind, text, done⟩ :: enclosing⟩ = _
      rw [List.foldlM_append, inner]
      show Reading.next? ⟨children.reverse, ⟨kind, text, done⟩ :: enclosing⟩
        ⟨.closing kind, after⟩ >>= pure = _
      rw [bind_pure, Reading.next?_closing, List.reverse_reverse]

theorem foldlM_piecesAll : ∀ (elements done : List Element) (enclosing : List Opened),
    (Element.piecesAll elements).foldlM Reading.next? ⟨done, enclosing⟩ =
      some ⟨elements.reverse ++ done, enclosing⟩
  | [], done, enclosing => rfl
  | element :: others, done, enclosing => by
      unfold Element.piecesAll
      rw [List.foldlM_append, foldlM_pieces element done enclosing, List.reverse_cons,
        List.append_assoc]
      exact foldlM_piecesAll others (element :: done) enclosing

end

/-- The reader inverts the writing of elements. -/
theorem readElements_writeAll (elements : List Element) :
    readElements (Element.writeAll elements) = some elements := by
  have built := foldlM_piecesAll elements [] []
  rw [List.append_nil] at built
  rw [readElements, Element.writeAll, Piece.splitOn_writeAll]
  simp only [Piece.mapM_read?, built, Option.bind_eq_bind, Option.bind_some]
  show some elements.reverse.reverse = _
  rw [List.reverse_reverse]

end BnfParsing.Markup
