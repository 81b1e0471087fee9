import RecurringBilling.Logging.Filter

/-!
How a component of the program sets up its log: what it reads from the environment, and what it
says first. A variable that is blank counts as absent, and one that cannot be read is warned about.
-/

namespace RecurringBilling

/-- The variables that a program is started with. -/
abbrev Environment := String → Option String

structure LogSetup where
  serviceName : String
  environment : String
  component : String
  level : LogLevel := .info
  coloured : Bool := true
  warnings : List String := []

namespace LogSetup

def level? (word : String) : Option LogLevel :=
  match Text.lowerAscii (Text.trim word) with
  | "error" => some .error
  | "warn" | "warning" => some .warn
  | "info" => some .info
  | "debug" => some .debug
  | "trace" => some .trace
  | _ => none

def switch? (word : String) : Option Bool :=
  match Text.lowerAscii (Text.trim word) with
  | "1" | "true" | "t" | "yes" | "y" | "on" => some true
  | "0" | "false" | "f" | "no" | "n" | "off" => some false
  | _ => none

/-- A variable as it is given, if there is more to it than blanks. -/
def given? (env : Environment) (name : String) : Option String :=
  (env name).filter fun value => (Text.nonBlank? value).isSome

def withLevel (env : Environment) (s : LogSetup) : LogSetup :=
  match given? env "LOG_LEVEL" with
  | none => s
  | some raw =>
    match level? raw with
    | some level => { s with level := level }
    | none => { s with
        warnings := s.warnings ++ ["LOG_LEVEL `" ++ raw ++ "` is not a level; using info"] }

def withColours (env : Environment) (s : LogSetup) : LogSetup :=
  match given? env "LOG_ANSI" with
  | none => s
  | some raw =>
    match switch? raw with
    | some coloured => { s with coloured := coloured }
    | none => { s with
        warnings := s.warnings ++ ["LOG_ANSI `" ++ raw ++ "` is not a boolean; colours stay on"] }

def read (component : String) (env : Environment) : LogSetup :=
  let component := Text.trim component
  withColours env (withLevel env
    { serviceName := (given? env "SERVICE_NAME").getD component
      environment := (given? env "STAGE").getD "unknown"
      component := component })

/-- The filter of the variable `RUST_LOG`, or else everything up to the level of the setup. -/
def filter (env : Environment) (s : LogSetup) : LogFilter :=
  ((env "RUST_LOG").bind LogFilter.ofText?).getD (.ofLevel s.level)

def target : String := "infra::observability"

def context (s : LogSetup) : List (String × LogValue) :=
  [("service", .shown s.serviceName), ("environment", .shown s.environment),
    ("component", .shown s.component)]

/-- The records that open the log. -/
def opening (s : LogSetup) : List LogRecord :=
  s.warnings.map (fun w =>
    ⟨.warn, target, "observability: config warning", s.context ++ [("warning", .shown w)]⟩) ++
  [⟨.info, target, "observability: tracing initialised", s.context⟩]

end LogSetup

end RecurringBilling
