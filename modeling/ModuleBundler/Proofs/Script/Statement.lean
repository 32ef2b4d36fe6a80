import ModuleBundler.Proofs.Script.Expression
import ModuleBundler.Script.Grammar.Statement

/-!
Statements are laid out in the text if the phrases inside of them are.
-/

namespace ModuleBundler.Script

variable {source : List Char} {grammar : Grammar}

theorem peeks_atResource : Peeks atResource :=
  (peeks_atKeyword "using").bind fun _ => .ite (peeks_upcoming.bind fun _ => .pure) .pure

theorem peeks_loopIntroduction? (setting : Setting) : Peeks (loopIntroduction? setting) := by
  refine peeks_current.bind fun token => .ite .pure (.ite .pure (.ite ?_ ?_))
  · exact Peeks.lift.bind fun _ => .pure
  refine peeks_atResource.bind fun _ => .ite ?_ (.ite ?_ .pure)
  · exact Peeks.lift.bind fun _ => .pure
  · exact Peeks.lift.bind fun _ => .pure

theorem peeks_atMisleadingName (awaits : Bool) : Peeks (atMisleadingName awaits) :=
  (peeks_atKeyword "let").bind fun _ => (peeks_atKeyword "async").bind fun _ =>
    .ite (peeks_upcoming.bind fun _ => .pure) .pure

theorem lays_jumpStatement : Lays source (fun node => [node]) jumpStatement := by
  refine .opening fun token => .bind (.keep lays_advance) fun _ => ?_
  have ending : Extends source token.start [] (fun node => [node]) (do
      endStatement
      close .jump token.start []) :=
    .bind (.keep lays_endStatement) fun _ => .close (.refl _) rfl rfl
  refine .bind (.keep peeks_mayEndStatement.lays) fun _ => .ite ?_ ending
  refine .bind (.keep peeks_current.lays) fun label => ?_
  split
  · exact .bind (.keep lays_advance) fun _ => ending
  · exact .failing

variable (lays : LaysPhrases source grammar)
include lays

theorem lays_declarator (setting : Setting) (introduction : Introduction) (inLoopHead : Bool) :
    Lays source (fun node => [node]) (declarator grammar setting introduction inLoopHead) := by
  refine .opening fun token => ?_
  have rest (pattern : Node) : Extends source token.start [pattern] (fun node => [node]) (do
      if ← eatSign "=" then
        let value ← grammar (.assignment setting)
        close .declarator token.start [pattern, value]
      else if needsValue introduction pattern && !inLoopHead then fail "expected a value"
      else close .declarator token.start [pattern]) := by
    refine .bind (.keep (lays_eatSign "=")) fun _ => .ite ?_ (.ite .fail (.close (.refl _) rfl rfl))
    exact .bind (.read (lays _)) fun _ => .close (.refl _) rfl rfl
  exact .ite (.bind (.read (lays_binding setting)) rest) (.bind (.read (lays _)) rest)

theorem lays_declaration (setting : Setting) (introduction : Introduction) (inLoopHead : Bool) :
    Lays source (fun node => [node]) (declaration grammar setting introduction inLoopHead) := by
  refine .opening fun token => ?_
  refine .bind (.read (lays_repeatUntil fun start found => ?_)) fun _ => .close (.refl _) rfl rfl
  refine .bind (.read (lays_declarator lays setting introduction inLoopHead)) fun _ => ?_
  exact .bind (.keep (lays_eatSign ",")) fun _ => .pure (Array.toList_push ..)

theorem lays_variableStatement (setting : Setting) (introduction : Introduction) :
    Lays source (fun node => [node]) (variableStatement grammar setting introduction) :=
  .of_extends fun _ => .bind (.keep lays_advance) fun _ =>
    .bind (.read (lays_declaration lays setting introduction false)) fun _ =>
      .bind (.keep lays_endStatement) fun _ => .pure rfl

theorem lays_expressionStatement (setting : Setting) (position : Position) :
    Lays source (fun node => [node]) (expressionStatement grammar setting position) := by
  refine .opening fun token => .bind (.read (lays _)) fun node => ?_
  refine .bind (.keep (peeks_atSign ":").lays) fun _ => ?_
  split
  · refine .bind (.keep lays_advance) fun _ => .bind (.read (lays _)) fun labelled => ?_
    exact .sublist (.close (.refl _) rfl rfl) (List.sublist_append_right _ _)
  · exact .bind (.keep lays_endStatement) fun _ => .close (.refl _) rfl rfl

theorem lays_letStatement (setting : Setting) (position : Position) :
    Lays source (fun node => [node]) (letStatement grammar setting position) := by
  refine .opening fun token => .bind (.keep peeks_upcoming.lays) fun next => ?_
  refine .ite ?_ (.ite ?_ (.ite ?_ (.read (lays_variableStatement lays setting .lexical))))
  · exact .bind (.read (lays _)) fun _ => .bind (.keep lays_endStatement) fun _ => .close (.refl _) rfl rfl
  · exact .bind (.read (lays _)) fun _ => .close (.refl _) rfl rfl
  · exact .bind (.read (lays_identifier setting)) fun _ => .bind (.keep lays_endStatement) fun _ =>
      .close (.refl _) rfl rfl

theorem extends_counterLoop (setting : Setting) (start : Nat) (first : List Node) :
    Extends source start first (fun node => [node]) (counterLoop grammar setting start first) := by
  refine .bind (.keep (lays_expectSign ";")) fun _ => .bind (.keep (peeks_atSign ";").lays) fun _ => ?_
  refine .optionalElse (lays _) fun condition => .bind (.keep (lays_expectSign ";")) fun _ => ?_
  refine .bind (.keep (peeks_atSign ")").lays) fun _ => .optionalElse (lays _) fun step => ?_
  refine .bind (.keep (lays_expectSign ")")) fun _ => .bind (.read (lays _)) fun body => ?_
  exact .close (.refl _) rfl rfl

theorem extends_elementLoop (setting : Setting) (start : Nat) (first : Node) :
    Extends source start [first] (fun node => [node]) (elementLoop grammar setting start first) := by
  have rest (subject : Node) : Extends source start [first, subject] (fun node => [node]) (do
      expectSign ")"
      let body ← grammar (.statement setting .alone)
      close .loop start [first, subject, body]) :=
    .bind (.keep (lays_expectSign ")")) fun _ => .bind (.read (lays _)) fun _ => .close (.refl _) rfl rfl
  refine .bind (.keep (lays_eatKeyword "in")) fun _ => .ite (.bind (.read (lays _)) rest) ?_
  exact .bind (.keep (lays_expectKeyword "of")) fun _ => .bind (.read (lays _)) rest

theorem extends_loopRest (setting : Setting) (start : Nat) (awaits : Bool) (first : Node)
    {asTarget : Node → Option Node}
    (replaces : first.Laid source → ∀ target ∈ asTarget first, first.Replaces source target) :
    Extends source start [first] (fun node => [node])
      (loopRest grammar setting start awaits first asTarget) := by
  refine .bind (.keep (peeks_atKeyword "of").lays) fun _ => ?_
  refine .bind (.keep (peeks_atKeyword "in").lays) fun _ => .ite ?_ (.ite .fail ?_)
  · split
    · rename_i target read
      exact .replace (extends_elementLoop lays setting start target) fun laid => replaces laid target read
    · exact .fail
  · exact extends_counterLoop lays setting start [first]

/-- What stands in the parentheses of a loop, with its body. -/
theorem extends_loopHead (setting : Setting) (start : Nat) (awaits : Bool) :
    Extends source start [] (fun node => [node]) (do
      expectSign "("
      let head := { setting with inOperator := false }
      match ← loopIntroduction? setting with
      | some introduction =>
        let _ ← eatKeyword "await"
        advance
        let declared ← declaration grammar head introduction true
        loopRest grammar setting start awaits declared some
      | none =>
        if !awaits && (← atSign ";") then counterLoop grammar setting start []
        else
          let misleads ← atMisleadingName awaits
          let first ← grammar (.expression head)
          if misleads && (← atKeyword "of") then fail "the name would read as a keyword"
          loopRest grammar setting start awaits first Node.target?) := by
  refine .bind (.keep (lays_expectSign "(")) fun _ => ?_
  refine .bind (.keep (peeks_loopIntroduction? setting).lays) fun found => ?_
  cases found with
  | some introduction =>
    refine .bind (.keep (lays_eatKeyword "await")) fun _ => .bind (.keep lays_advance) fun _ => ?_
    refine .bind (.read (lays_declaration lays _ introduction true)) fun declared => ?_
    refine extends_loopRest lays setting start awaits declared fun laid target same => ?_
    cases same
    exact laid.replaces
  | none =>
    refine .bind (.keep (peeks_atSign ";").lays) fun _ => .ite ?_ ?_
    · exact extends_counterLoop lays setting start []
    refine .bind (.keep (peeks_atMisleadingName awaits).lays) fun _ => .bind (.read (lays _)) fun first => ?_
    refine .bind (.keep (peeks_atKeyword "of").lays) fun _ => .guard ?_
    exact extends_loopRest lays setting start awaits first Node.Laid.target

theorem lays_forStatement (setting : Setting) :
    Lays source (fun node => [node]) (forStatement grammar setting) := by
  refine .opening fun token => .bind (.keep (lays_expectKeyword "for")) fun _ => ?_
  refine .ite (.bind (.keep (lays_eatKeyword "await")) (extends_loopHead lays setting token.start)) ?_
  exact .given (extends_loopHead lays setting token.start false)

theorem lays_whileStatement (setting : Setting) :
    Lays source (fun node => [node]) (whileStatement grammar setting) :=
  .opening fun _ => .bind (.keep (lays_expectKeyword "while")) fun _ =>
    .bind (.read (lays_parenthesized lays setting)) fun _ => .bind (.read (lays _)) fun _ =>
      .close (.refl _) rfl rfl

theorem lays_doStatement (setting : Setting) :
    Lays source (fun node => [node]) (doStatement grammar setting) := by
  refine .opening fun token => .bind (.keep (lays_expectKeyword "do")) fun _ => ?_
  refine .bind (.read (lays _)) fun body => .bind (.keep (lays_expectKeyword "while")) fun _ => ?_
  refine .bind (.read (lays_parenthesized lays setting)) fun condition => ?_
  exact .bind (.keep (lays_eatSign ";")) fun _ => .close (.refl _) rfl rfl

theorem lays_ifStatement (setting : Setting) :
    Lays source (fun node => [node]) (ifStatement grammar setting) := by
  refine .opening fun token => .bind (.keep (lays_expectKeyword "if")) fun _ => ?_
  refine .bind (.read (lays_parenthesized lays setting)) fun condition => ?_
  refine .bind (.read (lays _)) fun positive => .bind (.keep (lays_eatKeyword "else")) fun _ => ?_
  exact .optional (lays _) fun negative => .close (.refl _) rfl rfl

theorem lays_returnStatement (setting : Setting) :
    Lays source (fun node => [node]) (returnStatement grammar setting) := by
  refine .opening fun token => .guard (.bind (.keep lays_advance) fun _ => ?_)
  refine .bind (.keep peeks_mayEndStatement.lays) fun _ => .optionalElse (lays _) fun value => ?_
  exact .bind (.keep lays_endStatement) fun _ => .close (.refl _) rfl rfl

theorem lays_throwStatement (setting : Setting) :
    Lays source (fun node => [node]) (throwStatement grammar setting) := by
  refine .opening fun token => .bind (.keep lays_advance) fun _ => ?_
  refine .bind (.keep peeks_current.lays) fun _ => .guard (.bind (.read (lays _)) fun value => ?_)
  exact .bind (.keep lays_endStatement) fun _ => .close (.refl _) rfl rfl

theorem lays_withStatement (setting : Setting) :
    Lays source (fun node => [node]) (withStatement grammar setting) :=
  .opening fun _ => .bind (.keep lays_advance) fun _ =>
    .bind (.read (lays_parenthesized lays setting)) fun _ => .bind (.read (lays _)) fun _ =>
      .close (.refl _) rfl rfl

theorem lays_alternative (setting : Setting) :
    Lays source (fun node => [node]) (alternative grammar setting) := by
  refine .opening fun token => ?_
  have rest (test : List Node) : Extends source token.start test (fun node => [node]) (do
      expectSign ":"
      let statements ← repeatUntil (fun statements => do
        if (← atSign "\x7d") || (← atKeyword "case") || (← atKeyword "default") then
          return (statements, true)
        else return (statements.push (← grammar (.statement setting .block)), false)) #[]
      close .alternative token.start (test ++ statements.toList)) := by
    refine .bind (.keep (lays_expectSign ":")) fun _ => ?_
    refine .bind (.read (lays_repeatUntil fun start found => ?_)) fun _ => .close (.refl _) rfl rfl
    refine .bind (.keep (peeks_atSign "\x7d").lays) fun _ => ?_
    refine .bind (.keep (peeks_atKeyword "case").lays) fun _ => ?_
    refine .bind (.keep (peeks_atKeyword "default").lays) fun _ => .ite (.pure rfl) ?_
    exact .bind (.read (lays _)) fun _ => .pure (Array.toList_push ..)
  refine .bind (.keep (lays_eatKeyword "case")) fun _ => .ite ?_ ?_
  · exact .bind (.read (lays _)) fun test => .given (rest [test])
  · exact .bind (.keep (lays_expectKeyword "default")) fun _ => .given (rest [])

theorem lays_switchStatement (setting : Setting) :
    Lays source (fun node => [node]) (switchStatement grammar setting) := by
  refine .opening fun token => .bind (.keep lays_advance) fun _ => ?_
  refine .bind (.read (lays_parenthesized lays setting)) fun subject => ?_
  refine .bind (.keep (lays_expectSign "\x7b")) fun _ => ?_
  refine .bind (.read (lays_repeatUntil fun start found => ?_)) fun _ => .close (.refl _) rfl rfl
  refine .bind (.keep (lays_eatSign "\x7d")) fun _ => .ite (.pure rfl) ?_
  exact .bind (.read (lays_alternative lays setting)) fun _ => .pure (Array.toList_push ..)

theorem lays_handler (setting : Setting) :
    Lays source (fun node => [node]) (handler grammar setting) := by
  refine .opening fun token => ?_
  have rest (pattern : List Node) : Extends source token.start pattern (fun node => [node]) (do
      let body ← block grammar setting .block
      close .handler token.start (pattern ++ [body])) :=
    .bind (.read (lays_block lays setting .block)) fun _ => .close (.refl _) rfl rfl
  refine .bind (.keep (lays_eatSign "(")) fun _ => .ite ?_ (.given (rest []))
  refine .bind (.read (lays _)) fun pattern => .bind (.keep (lays_expectSign ")")) fun _ => ?_
  exact .given (rest [pattern])

theorem lays_tryStatement (setting : Setting) :
    Lays source (fun node => [node]) (tryStatement grammar setting) := by
  refine .opening fun token => .bind (.keep lays_advance) fun _ => ?_
  refine .bind (.read (lays_block lays setting .block)) fun body => ?_
  refine .bind (.keep (lays_eatKeyword "catch")) fun _ => ?_
  refine .optional (lays_handler lays setting) fun caught => ?_
  refine .bind (.keep (lays_eatKeyword "finally")) fun _ => ?_
  exact .optional (lays_block lays setting .block) fun _ => .guard (.close (.refl _) rfl rfl)

theorem lays_functionStatement (setting : Setting) (position : Position) :
    Lays source (fun node => [node]) (functionStatement grammar setting position) :=
  .of_extends fun _ => .bind (.keep (peeks_atKeyword "async").lays) fun _ =>
    .bind (.keep peeks_upcoming.lays) fun _ => .guard (.read (lays_function lays (some setting) true))

omit lays in
theorem lays_listed {reading : Reading Node} (inner : Lays source (fun node => [node]) reading)
    (position : Position) : Lays source (fun node => [node]) (listed position reading) :=
  .of_extends fun _ => .ite .fail (.read inner)

theorem lays_wordStatement (setting : Setting) (position : Position) (word : String) :
    Lays source (fun node => [node]) (wordStatement grammar setting position word) := by
  unfold wordStatement
  split
  · exact lays_variableStatement lays setting _
  · exact lays_listed (lays_variableStatement lays setting _) position
  · exact lays_letStatement lays setting position
  · exact lays_functionStatement lays setting position
  · refine lays_listed (.opening fun token => ?_) position
    exact extends_classDefinition lays setting token.start []
  · exact lays_ifStatement lays setting
  · exact lays_forStatement lays setting
  · exact lays_whileStatement lays setting
  · exact lays_doStatement lays setting
  · exact lays_jumpStatement
  · exact lays_jumpStatement
  · exact lays_returnStatement lays setting
  · exact lays_throwStatement lays setting
  · exact lays_withStatement lays setting
  · exact lays_switchStatement lays setting
  · exact lays_tryStatement lays setting
  · exact .of_extends fun _ => .bind (.keep lays_advance) fun _ => .bind (.keep lays_endStatement) fun _ =>
      .absent
  · refine .of_extends fun start => .bind (.keep peeks_atAsyncFunction.lays) fun _ => .ite ?_ ?_
    · exact .read (lays_functionStatement lays setting position)
    refine .bind (.keep peeks_atResource.lays) fun _ => .ite ?_ ?_
    · exact .read (lays_listed (lays_variableStatement lays setting _) position)
    · exact .read (lays_expressionStatement lays setting position)

theorem lays_plainStatement (setting : Setting) (position : Position) :
    Lays source (fun node => [node]) (plainStatement grammar setting position) := by
  refine .looking fun cursor frame => ?_
  split
  · exact lays_block lays setting _ cursor frame
  · exact laysAt_token frame (fun _ => .inl rfl) rfl
  · refine Extends.laysAt (.bind (.read (lays_decorators lays setting)) fun decorators => ?_) frame
    exact .bind (.read (lays _)) fun _ => .close (.refl _) rfl rfl
  · exact lays_wordStatement lays setting position _ cursor frame
  · exact lays_expressionStatement lays setting position cursor frame

end ModuleBundler.Script
