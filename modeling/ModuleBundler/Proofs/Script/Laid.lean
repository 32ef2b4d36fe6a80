import ModuleBundler.Proofs.Script.Token
import ModuleBundler.Script.Grammar.Basic

/-!
Where the nodes of a tree lie in the text: a part inside of the node it belongs to, and no two parts of a
node on top of each other. A reading lays what it reads behind what has been read before it, so that trees
are laid out from the leaves up as they are read.
-/

namespace ModuleBundler.Script

open Place (Ahead)
open Text (byteSize)

def IsSeam (source : List Char) (offset : Nat) : Prop :=
  ∃ rest, Ahead ⟨0, source⟩ ⟨offset, rest⟩

def Spells (source : List Char) (offset : Nat) (word : String) : Prop :=
  ∃ rest, Ahead ⟨0, source⟩ ⟨offset, rest⟩ ∧ word.toList <+: rest

theorem Spells.isSeam {source : List Char} {offset : Nat} {word : String}
    (spelled : Spells source offset word) :
    IsSeam source offset ∧ IsSeam source (offset + byteSize word.toList) := by
  obtain ⟨rest, known, behind, rfl⟩ := spelled
  exact ⟨⟨_, known⟩, ⟨_, known.trans (.pass word.toList rfl (.refl _))⟩⟩

/-- The word that a module declaration starts with. -/
def Shape.declares? : Shape → Option String
  | .importDeclaration => some "import"
  | .exportDeclaration | .exportDefault => some "export"
  | _ => none

def Shape.isBare : Shape → Bool
  | .absent | .identifier _ | .text _ => true
  | _ => false

namespace Node

def Between (low high : Nat) (node : Node) : Prop :=
  node.shape = .absent ∨ low ≤ node.span.start ∧ node.span.stop ≤ high

/-- Of two nodes that are not left out, one ends before the other starts. -/
def Apart (one other : Node) : Prop :=
  one.shape = .absent ∨ other.shape = .absent ∨ one.span.stop ≤ other.span.start ∨
    other.span.stop ≤ one.span.start

def keyword (start : Nat) (word : String) : Node :=
  mk (.text word) ⟨start, start + byteSize word.toList⟩ []

structure Heads (source : List Char) (span : Span) (parts : List Node) (word : String) : Prop where
  spelled : Spells source span.start word
  inside : (keyword span.start word).Between span.start span.stop
  apart : ∀ part ∈ parts, (keyword span.start word).Apart part

/-- A tree is laid out in a text: its nodes start and end between characters, parts lie inside of what they
belong to and apart from each other, words and strings are not empty, and a declaration starts with its
word. -/
inductive Laid (source : List Char) : Node → Prop
  | absent (span : Span) : Laid source (mk .absent span [])
  | bare {shape : Shape} {span : Span} (bare : shape.isBare = true)
      (starts : IsSeam source span.start) (stops : IsSeam source span.stop)
      (filled : span.start < span.stop) : Laid source (mk shape span [])
  | composed {shape : Shape} {span : Span} {parts : List Node} (composed : shape.isBare = false)
      (starts : IsSeam source span.start) (stops : IsSeam source span.stop)
      (opens : ∀ word ∈ shape.declares?, Heads source span parts word)
      (laid : ∀ part ∈ parts, Laid source part)
      (inside : ∀ part ∈ parts, part.Between span.start span.stop)
      (apart : parts.Pairwise Apart) : Laid source (mk shape span parts)

theorem Laid.seams {source : List Char} {node : Node} (laid : node.Laid source)
    (present : node.shape ≠ .absent) :
    IsSeam source node.span.start ∧ IsSeam source node.span.stop := by
  cases laid with
  | absent => exact absurd rfl present
  | bare _ starts stops _ => exact ⟨starts, stops⟩
  | composed _ starts stops _ _ _ _ => exact ⟨starts, stops⟩

theorem Laid.enclose {source : List Char} {node : Node} (laid : node.Laid source)
    (present : node.shape ≠ .absent) {shape : Shape} (composed : shape.isBare = false)
    (plain : shape.declares? = none) : Laid source (mk shape node.span [node]) := by
  obtain ⟨starts, stops⟩ := laid.seams present
  refine .composed composed starts stops (by rw [plain]; nofun) (fun part member => ?_)
    (fun part member => ?_) (List.pairwise_singleton _ _)
  · exact List.mem_singleton.1 member ▸ laid
  · exact List.mem_singleton.1 member ▸ .inr ⟨Nat.le_refl _, Nat.le_refl _⟩

theorem Between.mono {low high least most : Nat} {node : Node} (between : node.Between low high)
    (below : least ≤ low) (above : high ≤ most) : node.Between least most :=
  between.imp_right fun ⟨first, second⟩ => ⟨Nat.le_trans below first, Nat.le_trans second above⟩

theorem Apart.symm {one other : Node} (apart : one.Apart other) : other.Apart one := by
  rcases apart with gone | gone | before | behind
  · exact .inr (.inl gone)
  · exact .inl gone
  · exact .inr (.inr (.inr before))
  · exact .inr (.inr (.inl behind))

theorem Between.apart {low middle between high : Nat} {one other : Node}
    (first : one.Between low middle) (second : other.Between between high)
    (ordered : middle ≤ between) : one.Apart other := by
  rcases first with gone | ⟨-, stop⟩
  · exact .inl gone
  · rcases second with gone | ⟨start, -⟩
    · exact .inr (.inl gone)
    · exact .inr (.inr (.inl (Nat.le_trans stop (Nat.le_trans ordered start))))

end Node

structure Beside (source : List Char) (low high : Nat) (nodes : List Node) : Prop where
  laid : ∀ node ∈ nodes, node.Laid source
  between : ∀ node ∈ nodes, node.Between low high
  apart : nodes.Pairwise Node.Apart

namespace Beside

variable {source : List Char} {low middle between high : Nat} {nodes others : List Node}

theorem nil : Beside source low high [] :=
  ⟨nofun, nofun, .nil⟩

theorem single {node : Node} (laid : node.Laid source) (between : node.Between low high) :
    Beside source low high [node] :=
  ⟨List.forall_mem_singleton.2 laid, List.forall_mem_singleton.2 between, List.pairwise_singleton _ _⟩

theorem perm (beside : Beside source low high nodes) (same : nodes.Perm others) :
    Beside source low high others where
  laid node member := beside.laid node (same.mem_iff.2 member)
  between node member := beside.between node (same.mem_iff.2 member)
  apart := same.pairwise beside.apart Node.Apart.symm

theorem sublist (beside : Beside source low high nodes) (fewer : others.Sublist nodes) :
    Beside source low high others where
  laid node member := beside.laid node (fewer.subset member)
  between node member := beside.between node (fewer.subset member)
  apart := beside.apart.sublist fewer

theorem append (first : Beside source low middle nodes) (second : Beside source between high others)
    (ordered : middle ≤ between) (below : low ≤ between) (above : middle ≤ high) :
    Beside source low high (nodes ++ others) where
  laid node member := (List.mem_append.1 member).elim (first.laid node) (second.laid node)
  between node member := (List.mem_append.1 member).elim
    (fun front => (first.between node front).mono (Nat.le_refl _) above)
    fun back => (second.between node back).mono below (Nat.le_refl _)
  apart := List.pairwise_append.2 ⟨first.apart, second.apart, fun one front other back =>
    (first.between one front).apart (second.between other back) ordered⟩

theorem absent (span : Span) : Beside source low high [.mk .absent span []] :=
  single (.absent span) (.inl rfl)

theorem wrap {node : Node} (beside : Beside source low high [node]) (present : node.shape ≠ .absent)
    {shape : Shape} (composed : shape.isBare = false) (plain : shape.declares? = none) :
    Beside source low high [.mk shape node.span [node]] :=
  single ((beside.laid node (.head _)).enclose present composed plain)
    (.inr ((beside.between node (.head _)).resolve_left present))

theorem close (beside : Beside source low high nodes) {shape : Shape} (composed : shape.isBare = false)
    (starts : IsSeam source low) (stops : IsSeam source high)
    (opens : ∀ word ∈ shape.declares?, Node.Heads source ⟨low, high⟩ nodes word) :
    Beside source low high [.mk shape ⟨low, high⟩ nodes] :=
  single (.composed composed starts stops opens beside.laid beside.between beside.apart)
    (.inr ⟨Nat.le_refl _, Nat.le_refl _⟩)

end Beside

structure Frame (source : List Char) (start : Nat) (nodes : List Node) (cursor : Cursor) : Prop where
  token : cursor.token.Sound source
  stops : IsSeam source cursor.lastStop
  ordered : cursor.lastStop ≤ cursor.token.start
  starts : IsSeam source start
  begun : start ≤ cursor.token.start
  beside : Beside source start cursor.lastStop nodes

structure Cursor.Onward (cursor after : Cursor) : Prop where
  start_le : cursor.token.start ≤ after.token.start
  stop_le : cursor.lastStop ≤ after.lastStop

theorem Cursor.Onward.refl (cursor : Cursor) : cursor.Onward cursor :=
  ⟨Nat.le_refl _, Nat.le_refl _⟩

theorem Cursor.Onward.trans {cursor middle after : Cursor} (first : cursor.Onward middle)
    (second : middle.Onward after) : cursor.Onward after :=
  ⟨Nat.le_trans first.start_le second.start_le, Nat.le_trans first.stop_le second.stop_le⟩

variable {α β γ : Type} {source : List Char} {start : Nat} {earlier : List Node}
  {nodes : α → List Node} {others : β → List Node}

theorem Frame.fresh {cursor : Cursor} (frame : Frame source start earlier cursor) :
    Frame source cursor.token.start [] cursor :=
  ⟨frame.token, frame.stops, frame.ordered, ⟨_, frame.token.opens⟩, Nat.le_refl _, .nil⟩

theorem Frame.exchange {cursor : Cursor} {later : List Node} (frame : Frame source start earlier cursor)
    (beside : Beside source start cursor.lastStop later) : Frame source start later cursor :=
  ⟨frame.token, frame.stops, frame.ordered, frame.starts, frame.begun, beside⟩

theorem Frame.behind {cursor after : Cursor} {later : List Node}
    (frame : Frame source start earlier cursor) (laid : Frame source cursor.token.start later after)
    (onward : cursor.Onward after) : Frame source start (earlier ++ later) after :=
  ⟨laid.token, laid.stops, laid.ordered, frame.starts, Nat.le_trans frame.begun onward.start_le,
    frame.beside.append laid.beside frame.ordered frame.begun onward.stop_le⟩

theorem reading_bind_eq_ok {first : Reading α} {second : α → Reading β} {cursor after : Cursor}
    {answer : β} : (first >>= second) cursor = .ok (answer, after) ↔
      ∃ found middle, first cursor = .ok (found, middle) ∧ second found middle = .ok (answer, after) := by
  change (first cursor >>= fun found => second found.1 found.2) = _ ↔ _
  rw [except_bind_eq_ok, Prod.exists]

theorem lift_eq_ok {answer : Except Fault α} {cursor after : Cursor} {found : α} :
    (liftM answer : Reading α) cursor = .ok (found, after) ↔ answer = .ok found ∧ after = cursor := by
  cases answer with
  | ok given =>
    change Except.ok (given, cursor) = _ ↔ _
    simp [eq_comm]
  | error fault =>
    change Except.error fault = _ ↔ _
    simp

def LaysAt (source : List Char) (nodes : α → List Node) (reading : Reading α) (cursor : Cursor) : Prop :=
  ∀ ⦃found after⦄, reading cursor = .ok (found, after) →
    Frame source cursor.token.start (nodes found) after ∧ cursor.Onward after

def Lays (source : List Char) (nodes : α → List Node) (reading : Reading α) : Prop :=
  ∀ cursor, Frame source cursor.token.start [] cursor → LaysAt source nodes reading cursor

def Extends (source : List Char) (start : Nat) (earlier : List Node) (nodes : α → List Node)
    (reading : Reading α) : Prop :=
  ∀ ⦃cursor⦄, Frame source start earlier cursor → ∀ ⦃found after⦄,
    reading cursor = .ok (found, after) →
      Frame source start (nodes found) after ∧ cursor.Onward after

namespace Extends

theorem pure {found : α} (same : nodes found = earlier) :
    Extends source start earlier nodes (pure found) := by
  intro cursor frame other after ended
  cases ended
  exact ⟨same ▸ frame, .refl _⟩

theorem bind {first : Reading α} {second : α → Reading β}
    (begins : Extends source start earlier nodes first)
    (continues : ∀ found, Extends source start (nodes found) others (second found)) :
    Extends source start earlier others (first >>= second) := by
  intro cursor frame answer after ended
  obtain ⟨found, middle, one, two⟩ := reading_bind_eq_ok.1 ended
  obtain ⟨between, onward⟩ := begins frame one
  obtain ⟨final, further⟩ := continues found between two
  exact ⟨final, onward.trans further⟩

theorem given {found : α} {second : α → Reading β}
    (continues : Extends source start earlier others (second found)) :
    Extends source start earlier others (Pure.pure found >>= second) :=
  fun _ frame _ _ ended => continues frame ended

theorem fail {reason : String} : Extends source start earlier nodes (Script.fail reason) := by
  intro cursor frame found after ended
  cases ended

theorem failing {reason : String} {second : α → Reading β} :
    Extends source start earlier others (Script.fail reason >>= second) := by
  intro cursor frame found after ended
  cases ended

theorem ite {condition : Prop} [Decidable condition] {yes no : Reading α}
    (positive : Extends source start earlier nodes yes)
    (negative : Extends source start earlier nodes no) :
    Extends source start earlier nodes (if condition then yes else no) := by
  split
  · exact positive
  · exact negative

theorem guard {condition : Prop} [Decidable condition] {reason : String} {second : PUnit → Reading β}
    {next : Reading β} (continues : Extends source start earlier others next) :
    Extends source start earlier others (if condition then Script.fail reason >>= second else next) :=
  ite failing continues

theorem read {reading : Reading α} (lays : Lays source nodes reading) :
    Extends source start earlier (fun found => earlier ++ nodes found) reading := by
  intro cursor frame found after ended
  obtain ⟨laid, onward⟩ := lays cursor frame.fresh ended
  exact ⟨frame.behind laid onward, onward⟩

theorem keep {reading : Reading α} (lays : Lays source (fun _ => []) reading) :
    Extends source start earlier (fun _ => earlier) reading := by
  have kept : Extends source start earlier (fun _ => earlier ++ []) reading := read lays
  rwa [List.append_nil] at kept

/-- A node that is read in two steps comes behind what there was. -/
theorem within {first : Reading γ} {next : Token → γ → Reading α} {second : α → Reading β}
    (lays : ∀ token : Token, Extends source token.start [] nodes (first >>= next token))
    (continues : ∀ found, Extends source start (earlier ++ nodes found) others (second found)) :
    Extends source start earlier others (do
      let token ← Script.current
      let read ← first
      let found ← next token read
      second found) := by
  intro cursor frame answer after ended
  obtain ⟨_, _, got, ended⟩ := reading_bind_eq_ok.1 ended
  cases got
  obtain ⟨read, between, one, ended⟩ := reading_bind_eq_ok.1 ended
  obtain ⟨found, middle, two, ended⟩ := reading_bind_eq_ok.1 ended
  obtain ⟨laid, onward⟩ :=
    lays cursor.token frame.fresh (reading_bind_eq_ok.2 ⟨read, between, one, two⟩)
  obtain ⟨final, further⟩ := continues found (frame.behind laid onward) ended
  exact ⟨final, onward.trans further⟩

theorem optional {condition : Prop} [Decidable condition] {reading : Reading Node}
    {second : List Node → Reading β} (lays : Lays source (fun node => [node]) reading)
    (continues : ∀ found, Extends source start (earlier ++ found) others (second found)) :
    Extends source start earlier others
      (if condition then do
        let node ← reading
        let found ← Pure.pure [node]
        second found
      else do
        let found ← Pure.pure []
        second found) := by
  refine ite (bind (read lays) fun node => given (continues [node])) (given ?_)
  have empty := continues []
  rwa [List.append_nil] at empty

theorem optionalElse {condition : Prop} [Decidable condition] {reading : Reading Node}
    {second : List Node → Reading β} (lays : Lays source (fun node => [node]) reading)
    (continues : ∀ found, Extends source start (earlier ++ found) others (second found)) :
    Extends source start earlier others
      (if condition then do
        let found ← Pure.pure []
        second found
      else do
        let node ← reading
        let found ← Pure.pure [node]
        second found) := by
  refine ite (given ?_) (bind (read lays) fun node => given (continues [node]))
  have empty := continues []
  rwa [List.append_nil] at empty

theorem close {shape : Shape} {parts : List Node} (same : earlier.Perm parts)
    (composed : shape.isBare = false) (plain : shape.declares? = none) :
    Extends source start earlier (fun node => [node]) (Script.close shape start parts) := by
  intro cursor frame found after ended
  cases ended
  refine ⟨frame.exchange ?_, .refl _⟩
  exact (frame.beside.perm same).close composed frame.starts frame.stops (by rw [plain]; nofun)

theorem declare {shape : Shape} {word : String} {parts : List Node}
    (same : earlier.Perm (Node.keyword start word :: parts)) (composed : shape.isBare = false)
    (declares : shape.declares? = some word) (spelled : Spells source start word) :
    Extends source start earlier (fun node => [node]) (Script.close shape start parts) := by
  intro cursor frame found after ended
  cases ended
  have beside := frame.beside.perm same
  refine ⟨frame.exchange ?_, .refl _⟩
  refine (beside.sublist (List.sublist_cons_self _ _)).close composed frame.starts frame.stops ?_
  rintro _ known
  cases declares.symm.trans known
  exact ⟨spelled, beside.between _ (.head _), (List.pairwise_cons.1 beside.apart).1⟩

theorem sublist {reading : Reading α} {fewer : List Node}
    (extend : Extends source start fewer nodes reading) (less : fewer.Sublist earlier) :
    Extends source start earlier nodes reading :=
  fun _ frame _ _ ended => extend (frame.exchange (frame.beside.sublist less)) ended

theorem absent : Extends source start [] (fun node => [node]) (Pure.pure Node.absent) := by
  intro cursor frame found after ended
  cases ended
  exact ⟨frame.exchange (.absent _), .refl _⟩

theorem wrap {node : Node} (present : node.shape ≠ .absent) {shape : Shape}
    (composed : shape.isBare = false) (plain : shape.declares? = none) :
    Extends source start [node] (fun found => [found]) (Pure.pure (.mk shape node.span [node])) := by
  intro cursor frame found after ended
  cases ended
  exact ⟨frame.exchange (frame.beside.wrap present composed plain), .refl _⟩

theorem laysAt {reading : Reading α} {cursor : Cursor}
    (extend : Extends source cursor.token.start [] nodes reading)
    (frame : Frame source cursor.token.start [] cursor) : LaysAt source nodes reading cursor :=
  fun _ _ ended => extend frame ended

end Extends

theorem LaysAt.ite {condition : Prop} [Decidable condition] {yes no : Reading α} {cursor : Cursor}
    (positive : LaysAt source nodes yes cursor) (negative : LaysAt source nodes no cursor) :
    LaysAt source nodes (if condition then yes else no) cursor := by
  split
  · exact positive
  · exact negative

theorem LaysAt.bind {first : Reading α} {second : α → Reading β} {cursor : Cursor}
    (begins : LaysAt source nodes first cursor)
    (continues : ∀ found, Extends source cursor.token.start (nodes found) others (second found)) :
    LaysAt source others (first >>= second) cursor := by
  intro answer after ended
  obtain ⟨found, middle, one, two⟩ := reading_bind_eq_ok.1 ended
  obtain ⟨between, onward⟩ := begins one
  obtain ⟨final, further⟩ := continues found between two
  exact ⟨final, onward.trans further⟩

theorem LaysAt.fail {reason : String} {cursor : Cursor} :
    LaysAt source nodes (Script.fail reason) cursor :=
  fun _ _ ended => by cases ended

namespace Lays

theorem of_extends {reading : Reading α} (extend : ∀ start, Extends source start [] nodes reading) :
    Lays source nodes reading :=
  fun _ frame _ _ ended => extend _ frame ended

theorem opening {second : Token → Reading α}
    (extend : ∀ token, Extends source token.start [] nodes (second token)) :
    Lays source nodes (current >>= second) :=
  fun cursor frame _ _ ended => extend cursor.token frame ended

theorem forget {reading : Reading α} (lays : Lays source nodes reading) :
    Lays source (fun _ => []) reading := by
  intro cursor frame found after ended
  obtain ⟨laid, onward⟩ := lays cursor frame ended
  exact ⟨laid.exchange .nil, onward⟩

theorem looking {second : Token → Reading α}
    (lays : ∀ cursor, Frame source cursor.token.start [] cursor →
      LaysAt source nodes (second cursor.token) cursor) : Lays source nodes (current >>= second) :=
  fun cursor frame _ _ ended => lays cursor frame ended

end Lays

def Peeks (reading : Reading α) : Prop :=
  ∀ ⦃cursor found after⦄, reading cursor = .ok (found, after) → after = cursor

namespace Peeks

theorem pure {found : α} : Peeks (pure found) := by
  intro cursor other after ended
  cases ended
  rfl

theorem bind {first : Reading α} {second : α → Reading β} (begins : Peeks first)
    (continues : ∀ found, Peeks (second found)) : Peeks (first >>= second) := by
  intro cursor answer after ended
  obtain ⟨found, middle, one, two⟩ := reading_bind_eq_ok.1 ended
  exact (continues found two).trans (begins one)

theorem ite {condition : Prop} [Decidable condition] {yes no : Reading α} (positive : Peeks yes)
    (negative : Peeks no) : Peeks (if condition then yes else no) := by
  split
  · exact positive
  · exact negative

theorem lift {answer : Except Fault α} : Peeks (liftM answer) :=
  fun _ _ _ ended => (lift_eq_ok.1 ended).2

theorem laysAt_bind {first : Reading α} {second : α → Reading β} {cursor : Cursor} (peeks : Peeks first)
    (lays : ∀ found, LaysAt source others (second found) cursor) :
    LaysAt source others (first >>= second) cursor := by
  intro answer after ended
  obtain ⟨found, middle, looked, rest⟩ := reading_bind_eq_ok.1 ended
  obtain rfl := peeks looked
  exact lays found rest

theorem lays {reading : Reading α} (peeks : Peeks reading) : Lays source (fun _ => []) reading := by
  intro cursor frame found after ended
  obtain rfl := peeks ended
  exact ⟨frame, .refl _⟩

end Peeks

theorem current_eq_ok {cursor after : Cursor} {token : Token}
    (got : current cursor = .ok (token, after)) : token = cursor.token ∧ after = cursor := by
  cases got
  exact ⟨rfl, rfl⟩

theorem peeks_current : Peeks current :=
  fun _ _ _ got => (current_eq_ok got).2

theorem peeks_upcoming : Peeks upcoming :=
  peeks_current.bind fun _ => .lift

theorem peeks_atSign (sign : String) : Peeks (atSign sign) :=
  peeks_current.bind fun _ => .pure

theorem peeks_atKeyword (name : String) : Peeks (atKeyword name) :=
  peeks_current.bind fun _ => .pure

theorem peeks_mayEndStatement : Peeks mayEndStatement :=
  peeks_current.bind fun _ => .pure

theorem advance_eq_ok {cursor after : Cursor} (advanced : advance cursor = .ok ((), after)) :
    cursor.token.next = .ok after.token ∧ after.lastStop = cursor.token.stop := by
  unfold advance at advanced
  obtain ⟨same, _, got, rest⟩ := reading_bind_eq_ok.1 advanced
  cases got
  obtain ⟨following, middle, scanned, put⟩ := reading_bind_eq_ok.1 rest
  obtain ⟨next, rfl⟩ := lift_eq_ok.1 scanned
  cases put
  exact ⟨next, rfl⟩

theorem lays_advance : Lays source (fun _ => []) advance := by
  intro cursor frame answer after advanced
  obtain ⟨next, stop⟩ := advance_eq_ok advanced
  obtain ⟨sound, ordered⟩ := frame.token.next next
  have whole := frame.token.start_le
  refine ⟨⟨sound, stop ▸ ⟨_, frame.token.ends⟩, stop ▸ ordered, frame.starts,
    Nat.le_trans whole ordered, .nil⟩, Nat.le_trans whole ordered, ?_⟩
  exact stop ▸ Nat.le_trans frame.ordered whole

/-- A token is a leaf of the tree. -/
theorem laysAt_token {shape : Shape} {cursor : Cursor} (frame : Frame source cursor.token.start [] cursor)
    (bare : shape.isBare = true → shape = .absent ∨ cursor.token.start < cursor.token.stop)
    (plain : shape.declares? = none) :
    LaysAt source (fun node => [node])
      (do
        advance
        return .mk shape cursor.token.span []) cursor := by
  intro node after ended
  obtain ⟨_, middle, advanced, put⟩ := reading_bind_eq_ok.1 ended
  cases put
  obtain ⟨passed, onward⟩ := lays_advance cursor frame advanced
  have stop := (advance_eq_ok advanced).2
  have covered : Node.Between cursor.token.start after.lastStop (.mk shape cursor.token.span []) :=
    .inr ⟨Nat.le_refl _, Nat.le_of_eq stop.symm⟩
  have laid : Node.Laid source (.mk shape cursor.token.span []) := by
    cases kind : shape.isBare with
    | false =>
      exact .composed kind frame.starts ⟨_, frame.token.ends⟩ (by rw [plain]; nofun) nofun nofun .nil
    | true =>
      rcases bare kind with rfl | filled
      · exact .absent _
      · exact .bare kind frame.starts ⟨_, frame.token.ends⟩ filled
  exact ⟨passed.exchange (.single laid covered), onward⟩

theorem laysAt_reread {again : Token → Except Fault Token} {cursor : Cursor}
    (frame : Frame source cursor.token.start [] cursor)
    (sound : ∀ {token}, again cursor.token = .ok token →
      token.Sound source ∧ token.start = cursor.token.start) :
    LaysAt source (fun _ => []) (reread (again cursor.token)) cursor := by
  intro answer after ended
  unfold reread at ended
  obtain ⟨token, middle, scanned, put⟩ := reading_bind_eq_ok.1 ended
  obtain ⟨read, rfl⟩ := lift_eq_ok.1 scanned
  cases put
  obtain ⟨kept, start⟩ := sound read
  exact ⟨⟨kept, frame.stops, start ▸ frame.ordered, frame.starts, Nat.le_of_eq start.symm, .nil⟩,
    Nat.le_of_eq start.symm, Nat.le_refl _⟩

theorem lays_eatSign (sign : String) : Lays source (fun _ => []) (eatSign sign) :=
  .of_extends fun _ => .bind (.keep (peeks_atSign sign).lays) fun _ =>
    .ite (.bind (.keep lays_advance) fun _ => .pure rfl) (.pure rfl)

theorem lays_eatKeyword (name : String) : Lays source (fun _ => []) (eatKeyword name) :=
  .of_extends fun _ => .bind (.keep (peeks_atKeyword name).lays) fun _ =>
    .ite (.bind (.keep lays_advance) fun _ => .pure rfl) (.pure rfl)

theorem lays_expectSign (sign : String) : Lays source (fun _ => []) (expectSign sign) :=
  .of_extends fun _ => .bind (.keep (lays_eatSign sign)) fun _ => .ite .fail (.pure rfl)

theorem lays_expectKeyword (name : String) : Lays source (fun _ => []) (expectKeyword name) :=
  .of_extends fun _ => .bind (.keep (lays_eatKeyword name)) fun _ => .ite .fail (.pure rfl)

theorem lays_endStatement : Lays source (fun _ => []) endStatement :=
  .opening fun _ => .ite (.keep lays_advance) (.ite (.pure rfl) .fail)

theorem lays_readName {shape : String → Shape} {setting : Setting}
    (plain : ∀ name, (shape name).declares? = none) :
    Lays source (fun node => [node]) (readName shape setting) := by
  refine .looking fun cursor frame => ?_
  cases known : cursor.token.plainName? with
  | none => exact .fail
  | some name =>
    have filled : cursor.token.start < cursor.token.stop := by
      have reads := frame.token.reads
      unfold Token.plainName? at known
      split at known
      · rename_i word escaped lexeme
        rw [lexeme] at reads
        exact reads.1
      · cases known
    dsimp only
    split
    · exact laysAt_token frame (fun _ => .inr filled) (plain name)
    · exact .fail

theorem readName_eq_ok {shape : String → Shape} {setting : Setting} {cursor after : Cursor} {node : Node}
    (read : readName shape setting cursor = .ok (node, after)) :
    ∃ name, node = .mk (shape name) cursor.token.span [] := by
  obtain ⟨token, middle, got, rest⟩ := reading_bind_eq_ok.1 read
  obtain ⟨rfl, rfl⟩ := current_eq_ok got
  cases known : middle.token.plainName? with
  | none =>
    rw [known] at rest
    cases rest
  | some name =>
    rw [known] at rest
    dsimp only at rest
    split at rest
    · obtain ⟨_, final, advanced, put⟩ := reading_bind_eq_ok.1 rest
      cases put
      exact ⟨name, rfl⟩
    · cases rest

theorem lays_identifier (setting : Setting) : Lays source (fun node => [node]) (identifier setting) :=
  lays_readName fun _ => rfl

theorem lays_binding (setting : Setting) : Lays source (fun node => [node]) (binding setting) :=
  lays_readName fun _ => rfl

theorem lays_textLiteral : Lays source (fun node => [node]) textLiteral := by
  refine .looking fun cursor frame => ?_
  have reads := frame.token.reads
  split
  · rename_i value lexeme
    rw [lexeme] at reads
    exact laysAt_token frame (fun _ => .inr reads) rfl
  · exact .fail

namespace Extends

theorem repeatFor {step : α → Reading (α × Bool)}
    (steps : ∀ state, Extends source start (nodes state) (fun answer => nodes answer.1) (step state))
    (budget : Nat) (state : α) :
    Extends source start (nodes state) nodes (Script.repeatFor step budget state) := by
  induction budget generalizing state with
  | zero => exact .fail
  | succ budget ih => exact .bind (steps state) fun (next, done) => .ite (.pure rfl) (ih next)

theorem repeatUntil (nodes : α → List Node) {step : α → Reading (α × Bool)}
    (steps : ∀ state, Extends source start (nodes state) (fun answer => nodes answer.1) (step state))
    (state : α) : Extends source start (nodes state) nodes (Script.repeatUntil step state) := by
  have gets : Peeks (get : Reading Cursor) := by
    intro cursor found after ended
    cases ended
    rfl
  exact .bind (.keep gets.lays) fun cursor => repeatFor steps (cursor.size + 1) state

theorem attempt {reading : Reading α} (extend : Extends source start earlier nodes reading) :
    Extends source start earlier (fun found => found.elim earlier nodes) (Script.attempt reading) := by
  intro cursor frame found after ended
  unfold Script.attempt at ended
  split at ended
  · rename_i answer final succeeded
    cases ended
    exact extend frame succeeded
  · cases ended
    exact ⟨frame, .refl _⟩

end Extends

theorem lays_repeatUntil {step : Array Node → Reading (Array Node × Bool)}
    (steps : ∀ start found, Extends source start found.toList (fun answer => answer.1.toList) (step found)) :
    Lays source Array.toList (repeatUntil step #[]) :=
  .of_extends fun start => .repeatUntil Array.toList (steps start) #[]

theorem lays_commaSeparated {closing : String} {phrase : Reading Node}
    (lays : Lays source (fun node => [node]) phrase) :
    Lays source Prod.fst (commaSeparated closing phrase) := by
  refine .of_extends fun start => .bind
    (.repeatUntil (fun state : Array Node × Bool => state.1.toList) ?_ (#[], false))
    fun (phrases, trailing) => .pure rfl
  rintro ⟨phrases, trailing⟩
  refine .bind (.keep (lays_eatSign closing)) fun _ => .ite (.pure rfl) ?_
  refine .bind (.read lays) fun node => .bind (.keep (lays_eatSign ",")) fun _ => .ite ?_ ?_
  · exact .pure (Array.toList_push ..)
  · exact .bind (.keep (lays_expectSign closing)) fun _ => .pure (Array.toList_push ..)

end ModuleBundler.Script
