import ModuleBundler.Proofs.Script.Statement
import ModuleBundler.Script.Program

/-!
The tree of a text is laid out in it. Declarations start with their words, and the line that names an
interpreter stands in front of everything else.
-/

namespace ModuleBundler.Script

open Text (byteSize)

variable {source : List Char}

theorem lays_moduleName : Lays source (fun _ => []) moduleName := by
  refine .opening fun token => ?_
  split
  · exact .bind (.keep lays_advance) fun _ => .pure rfl
  · exact .bind (.keep lays_advance) fun _ => .pure rfl
  · exact .fail

theorem lays_importAttribute : Lays source (fun node => [node]) importAttribute :=
  .of_extends fun _ => .bind (.keep lays_moduleName) fun _ => .bind (.keep (lays_expectSign ":")) fun _ =>
    .read lays_textLiteral

theorem lays_importAttributes : Lays source (fun _ => []) importAttributes := by
  refine .opening fun token => .ite (.bind (.keep lays_advance) fun _ => ?_) (.pure rfl)
  refine .bind (.keep (lays_expectSign "\x7b")) fun _ => ?_
  exact .bind (.keep (lays_commaSeparated lays_importAttribute).forget) fun _ => .pure rfl

theorem lays_importSource : Lays source (fun node => [node]) importSource :=
  .of_extends fun _ => .bind (.keep (lays_expectKeyword "from")) fun _ =>
    .bind (.read lays_textLiteral) fun _ => .bind (.keep lays_importAttributes) fun _ =>
      .bind (.keep lays_endStatement) fun _ => .pure rfl

theorem lays_importSpecifier (setting : Setting) :
    Lays source (fun node => [node]) (importSpecifier setting) := by
  refine .of_extends fun start => .bind (.keep peeks_upcoming.lays) fun _ => .ite ?_ ?_
  · exact .bind (.keep lays_moduleName) fun _ => .bind (.keep (lays_expectKeyword "as")) fun _ =>
      .read (lays_binding setting)
  · exact .read (lays_binding setting)

theorem lays_importedNames (setting : Setting) : Lays source id (importedNames setting) := by
  refine .of_extends fun start => .bind (.keep (lays_eatSign "*")) fun _ => .ite ?_ ?_
  · exact .bind (.keep (lays_expectKeyword "as")) fun _ => .bind (.read (lays_binding setting)) fun _ =>
      .pure rfl
  · exact .bind (.keep (lays_expectSign "\x7b")) fun _ =>
      .bind (.read (lays_commaSeparated (lays_importSpecifier setting))) fun _ => .pure rfl

theorem spelled_of_isKeyword {token : Token} {word : String} (sound : token.Sound source)
    (keyword : token.isKeyword word = true) :
    word.toList <+: token.text ∧ token.stop = token.start + byteSize word.toList := by
  have reads := sound.reads
  unfold Token.isKeyword at keyword
  split at keyword
  · rename_i text lexeme
    rw [lexeme] at reads
    exact eq_of_beq keyword ▸ reads.2 rfl
  · cases keyword

/-- A keyword that has been read stands where it was expected, and is the last that has been read. -/
theorem keyword_of_expectKeyword {start : Nat} {earlier : List Node} {cursor after : Cursor} {word : String}
    (frame : Frame source start earlier cursor) (read : expectKeyword word cursor = .ok ((), after)) :
    Spells source cursor.token.start word ∧
      after.lastStop = cursor.token.start + byteSize word.toList := by
  obtain ⟨eaten, middle, first, rest⟩ := reading_bind_eq_ok.1 read
  obtain ⟨found, _, looked, taken⟩ := reading_bind_eq_ok.1 first
  cases looked
  split at taken
  · rename_i keyword
    obtain ⟨begins, stop⟩ := spelled_of_isKeyword frame.token keyword
    obtain ⟨_, passed, advanced, put⟩ := reading_bind_eq_ok.1 taken
    cases put
    cases rest
    exact ⟨⟨_, frame.token.opens, begins⟩, (advance_eq_ok advanced).2.trans stop⟩
  · cases taken
    cases rest

/-- What a keyword opens starts with it, and comes behind it. -/
theorem laysAt_opened {α : Type} {nodes : α → List Node} {cursor : Cursor} {word : String}
    {second : Unit → Reading α} (frame : Frame source cursor.token.start [] cursor)
    (filled : 0 < byteSize word.toList)
    (extend : Spells source cursor.token.start word →
      Extends source cursor.token.start [Node.keyword cursor.token.start word] nodes (second ())) :
    LaysAt source nodes (expectKeyword word >>= second) cursor := by
  intro found after ended
  obtain ⟨_, middle, read, rest⟩ := reading_bind_eq_ok.1 ended
  obtain ⟨between, onward⟩ := Extends.keep (lays_expectKeyword word) frame read
  obtain ⟨spelled, stop⟩ := keyword_of_expectKeyword frame read
  have laid : (Node.keyword cursor.token.start word).Laid source :=
    .bare rfl frame.starts (stop ▸ between.stops) (Nat.lt_add_of_pos_right filled)
  have covered : (Node.keyword cursor.token.start word).Between cursor.token.start middle.lastStop :=
    .inr ⟨Nat.le_refl _, Nat.le_of_eq stop.symm⟩
  obtain ⟨final, further⟩ := extend spelled (between.exchange (.single laid covered)) rest
  exact ⟨final, onward.trans further⟩

theorem lays_importDeclaration (setting : Setting) :
    Lays source (fun node => [node]) (importDeclaration setting) := by
  refine .looking fun cursor frame => laysAt_opened frame (by decide) fun spelled => ?_
  let word : Node := .keyword cursor.token.start "import"
  have rest (bound : List Node) :
      Extends source cursor.token.start (word :: bound) (fun node => [node]) (do
        let source ← importSource
        close .importDeclaration cursor.token.start (bound ++ [source])) :=
    .bind (.read lays_importSource) fun _ => .declare (.refl _) rfl rfl spelled
  have names : Extends source cursor.token.start [word] (fun node => [node]) (do
      let bound ←
        if ← atSign "*" then importedNames setting
        else do
          let first ← binding setting
          if ← eatSign "," then pure (first :: (← importedNames setting)) else pure [first]
      let source ← importSource
      close .importDeclaration cursor.token.start (bound ++ [source])) := by
    refine .bind (.keep (peeks_atSign "*").lays) fun _ => .ite ?_ (.bind (.read (lays_binding _)) ?_)
    · exact .bind (.read (lays_importedNames setting)) rest
    · intro first
      refine .bind (.keep (lays_eatSign ",")) fun _ => .ite ?_ (.given (rest [first]))
      exact .bind (.read (lays_importedNames setting)) fun others => .given (rest (first :: others))
  refine .bind (.keep peeks_current.lays) fun token => ?_
  split
  · refine .bind (.read lays_textLiteral) fun _ => .bind (.keep lays_importAttributes) fun _ => ?_
    exact .bind (.keep lays_endStatement) fun _ => .declare (.refl _) rfl rfl spelled
  · refine .bind (.keep peeks_upcoming.lays) fun next => ?_
    refine .bind (.keep (peeks_atKeyword "source").lays) fun _ => ?_
    refine .bind (.keep (peeks_atKeyword "defer").lays) fun _ => .ite ?_ names
    exact .bind (.keep lays_advance) fun _ => names
  · exact .bind (.read (lays_importedNames setting)) rest

theorem lays_exportSpecifier : Lays source (fun specifier => [specifier.node]) exportSpecifier := by
  refine .opening fun token => .bind (.keep lays_moduleName) fun name => ?_
  have rest (exported : String) : Extends source token.start [] (fun specifier => [specifier.node]) (do
      return (⟨← close (.exportSpecifier exported) token.start [], token.plainName?.isNone⟩ :
        ExportSpecifier)) :=
    .bind (.close (.refl _) rfl rfl) fun _ => .pure rfl
  refine .bind (.keep (lays_eatKeyword "as")) fun _ => .ite ?_ (.given (rest name))
  exact .bind (.keep lays_moduleName) rest

theorem lays_exportSpecifiers :
    Lays source (fun specifiers => specifiers.map ExportSpecifier.node) exportSpecifiers := by
  refine .of_extends fun start => .bind (.keep (lays_expectSign "\x7b")) fun _ => ?_
  refine .repeatUntil (fun specifiers => specifiers.map ExportSpecifier.node) (fun specifiers => ?_) []
  refine .bind (.keep (lays_eatSign "\x7d")) fun _ => .ite (.pure rfl) ?_
  refine .bind (.read lays_exportSpecifier) fun specifier => ?_
  refine .bind (.keep (lays_eatSign ",")) fun _ => .ite (.pure List.map_append) ?_
  exact .bind (.keep (lays_expectSign "\x7d")) fun _ => .pure List.map_append

variable {grammar : Grammar} (lays : LaysPhrases source grammar)
include lays

theorem extends_exportDefault (setting : Setting) {start : Nat} (spelled : Spells source start "export")
    (decorators : List Node) :
    Extends source start (.keyword start "export" :: decorators) (fun node => [node])
      (exportDefault grammar setting start decorators) := by
  have rest (exported : Node) :
      Extends source start (.keyword start "export" :: (decorators ++ [exported])) (fun node => [node])
        (close .exportDefault start (decorators ++ [exported])) :=
    .declare (.refl _) rfl rfl spelled
  refine .bind (.keep (lays_expectKeyword "default")) fun _ => ?_
  refine .bind (.keep (peeks_atKeyword "function").lays) fun _ => ?_
  refine .bind (.keep peeks_atAsyncFunction.lays) fun _ => ?_
  refine .bind (.keep (peeks_atKeyword "class").lays) fun _ => ?_
  refine .bind (.keep (peeks_atSign "@").lays) fun _ => .ite ?_ (.ite ?_ ?_)
  · exact .bind (.read (lays_function lays (some setting) false)) rest
  · refine .within (fun token => .bind (.read (lays_decorators lays setting)) fun own => ?_) rest
    exact extends_classDefinition lays setting token.start own
  · refine .bind (.read (lays _)) fun node => .bind (.keep lays_endStatement) fun _ => ?_
    exact .given (rest node)

theorem lays_exportDeclaration (setting : Setting) :
    Lays source (fun node => [node]) (exportDeclaration grammar setting) := by
  refine .looking fun cursor frame => laysAt_opened frame (by decide) fun spelled => ?_
  let word : Node := .keyword cursor.token.start "export"
  have rest (nodes : List Node) :
      Extends source cursor.token.start (word :: nodes) (fun node => [node]) (do
        let source ← importSource
        close .exportDeclaration cursor.token.start (nodes ++ [source])) :=
    .bind (.read lays_importSource) fun _ => .declare (.refl _) rfl rfl spelled
  refine .bind (.read (lays_decorators lays setting)) fun decorators => ?_
  have undecorated : [word].Sublist ([word] ++ decorators) := List.sublist_append_left _ _
  refine .bind (.keep peeks_current.lays) fun token => ?_
  split
  · refine .sublist (.bind (.read lays_exportSpecifiers) fun specifiers => ?_) undecorated
    refine .bind (.keep (peeks_atKeyword "from").lays) fun _ => .ite (rest _) (.guard ?_)
    exact .bind (.keep lays_endStatement) fun _ => .declare (.refl _) rfl rfl spelled
  · refine .sublist (.bind (.keep lays_advance) fun _ => ?_) undecorated
    refine .bind (.keep (lays_eatKeyword "as")) fun _ => .ite ?_ (.given (rest []))
    exact .within (fun _ => .bind (.keep lays_moduleName) fun _ => .close (.refl _) rfl rfl)
      fun node => .given (rest [node])
  · exact extends_exportDefault lays setting spelled decorators
  · refine .bind (.keep peeks_atAsyncFunction.lays) fun _ => .ite ?_ .fail
    exact .bind (.read (lays_wordStatement lays setting _ _)) fun _ => .declare (.refl _) rfl rfl spelled
  · exact .fail

theorem lays_statement (setting : Setting) (position : Position) :
    Lays source (fun node => [node]) (statement grammar setting position) := by
  have plain := lays_plainStatement lays setting position
  refine .opening fun token => .ite ?_ (.ite (.read (lays_exportDeclaration lays setting)) (.read plain))
  refine .bind (.keep Peeks.lift.lays) fun _ => .ite (.read plain) ?_
  exact .read (lays_importDeclaration setting)

omit lays in
theorem laysPhrases_grammarUpTo (depth : Nat) : LaysPhrases source (grammarUpTo depth) := by
  induction depth with
  | zero => exact fun _ => .of_extends fun _ => .fail
  | succ depth ih =>
    intro goal
    cases goal with
    | expression setting => exact lays_expression ih setting
    | assignment setting => exact lays_assignment ih setting
    | unary setting => exact lays_unary ih setting
    | operand setting calls => exact lays_operand ih setting calls
    | pattern setting => exact lays_pattern ih setting
    | statement setting position => exact lays_statement ih setting position

/-- A tree was read from a text: it is laid out there, and what it takes for the line that names an
interpreter is one, in front of everything else. -/
structure Node.ReadFrom (source : List Char) (program : Node) : Prop where
  laid : program.Laid source
  headed : ∀ line, program.shape = .program (some line) →
    Spells source line.start "#!" ∧ line.start + 2 ≤ line.stop ∧
      ∀ part ∈ program.parts, part.Between line.stop program.span.stop

theorem readFrom_of_program {cursor after : Cursor} {tree : Node}
    (frame : Frame source cursor.token.start [] cursor)
    (read : program grammar cursor = .ok (tree, after)) : tree.ReadFrom source := by
  have statements : Lays source Array.toList (repeatUntil (fun statements => do
      if (← current).lexeme == .endOfText then return (statements, true)
      else return (statements.push (← grammar (.statement .body .body)), false)) #[]) := by
    refine lays_repeatUntil fun start found => .bind (.keep peeks_current.lays) fun _ => ?_
    exact .ite (.pure rfl) (.bind (.read (lays _)) fun _ => .pure (Array.toList_push ..))
  have closing {line : Option Span} {nodes : List Node} {final : Cursor}
      (laid : Frame source cursor.token.start nodes final) :
      Node.Laid source (.mk (.program line) ⟨cursor.token.start, final.lastStop⟩ nodes) :=
    (laid.beside.close rfl laid.starts laid.stops (by rintro _ ⟨⟩)).laid _ (.head _)
  obtain ⟨token, _, got, rest⟩ := reading_bind_eq_ok.1 read
  cases got
  dsimp only at rest
  split at rest
  · rename_i lexeme
    have reads := frame.token.reads
    rw [lexeme] at reads
    obtain ⟨start, marked, stop⟩ := reads
    obtain ⟨_, between, advanced, rest⟩ := reading_bind_eq_ok.1 rest
    obtain ⟨passed, onward⟩ := lays_advance cursor frame advanced
    have behind : cursor.token.stop ≤ between.token.start :=
      (advance_eq_ok advanced).2 ▸ passed.ordered
    obtain ⟨found, middle, first, closed⟩ := reading_bind_eq_ok.1 rest
    obtain ⟨laid, further⟩ := statements between passed.fresh first
    cases closed
    refine ⟨closing (passed.behind laid further), ?_⟩
    rintro _ ⟨⟩
    refine ⟨⟨_, frame.token.opens, marked⟩, ?_, fun part member => ?_⟩
    · exact Nat.le_trans (Nat.le_of_eq (congrArg (· + 2) start)) stop
    · exact (laid.beside.between part member).mono behind (Nat.le_refl _)
  · obtain ⟨found, middle, first, closed⟩ := reading_bind_eq_ok.1 rest
    obtain ⟨laid, -⟩ := statements cursor frame first
    cases closed
    exact ⟨closing laid, nofun⟩

omit lays in
theorem readFrom_of_ofText? {text : String} {tree : Node} (read : Node.ofText? text = .ok tree) :
    tree.ReadFrom text.toList := by
  obtain ⟨token, scanned, rest⟩ := except_bind_eq_ok.1 read
  obtain ⟨⟨program, after⟩, ended, rest⟩ := except_bind_eq_ok.1 rest
  obtain ⟨sound, -⟩ := sound_scanToken (.refl _) scanned
  have frame : Frame text.toList token.start []
      { token, lastStop := 0, size := text.toList.length } :=
    ⟨sound, ⟨_, .refl _⟩, Nat.zero_le _, ⟨_, sound.opens⟩, Nat.le_refl _, .nil⟩
  have whole := readFrom_of_program (laysPhrases_grammarUpTo _) frame ended
  dsimp only at rest
  split at rest
  · cases rest
  · cases rest
    exact whole

end ModuleBundler.Script
