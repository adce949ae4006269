import Autoscaler.CommandLine.Request

/-!
# The help page

What the help page says: what the program is for, and what each of its options is for. How a page is
laid out is up to the library that shows it.
-/

namespace Autoscaler

/-- An entry of a help page: the spellings of an option, the word for its value if it has one of its
own, what the option is for, and the value that stands for it where it is not given. -/
structure HelpEntry where
  names : List Text
  valueName? : Option Text
  purpose : Text
  default? : Option Text

/-- A help page. -/
structure HelpPage where
  summary : Text
  entries : List HelpEntry

namespace CommandOption

/-- What an option is for. -/
def purpose : CommandOption → Text
  | .field .target =>
      ("Target to scale. In format: deployment/*, replicaset/*, statefulset/* " : Text) ++
        ("or resource.group (not case sensitive)." : Text)
  | .field .configmap => "ConfigMap containing our scaling parameters."
  | .field .podNamespace =>
      ("Namespace for all operations, fallback to the namespace of this autoscaler " : Text) ++
        ("(through MY_POD_NAMESPACE env) if not specified." : Text)
  | .field .pollPeriodSeconds =>
      ("The time, in seconds, to check cluster status and perform autoscale. " : Text) ++
        ("Defaults to 10." : Text)
  | .field .printVersion => "Print the version and exit."
  | .field .defaultParams =>
      ("Default parameters (JSON format) for auto-scaling. Will create/re-create a " : Text) ++
        ("ConfigMap with these default params if the ConfigMap is not present." : Text)
  | .field .nodeLabels =>
      ("NodeLabels for filtering search of nodes and their cpus by LabelSelectors. " : Text) ++
        ("Comma separated list of keyN=valueN, " : Text) ++
        ("e.g. --nodelabels=label1=value1,label2=value2." : Text)
  | .field .maxSyncFailures =>
      ("Number of consecutive polling failures before exiting. " : Text) ++
        ("Default value of 0 will allow for unlimited retries." : Text)
  | .configFile => "YAML file with flag values. Command-line flags take precedence."
  | .logLevel => "Log level"
  | .logFile => "Also write logs to this file"
  | .help => "Show this message and exit."

/-- The spellings of an option. -/
def spellings : CommandOption → List Text
  | .configFile => ["--config", "-c"]
  | o => [o.flag]

/-- The entry of an option. -/
def helpEntry (o : CommandOption) : HelpEntry where
  names := o.spellings
  valueName? := if o = .field .defaultParams then some ParamMap.kindName else none
  purpose := o.purpose
  default? := if o = .logLevel then some ({} : Request).level.name else none

end CommandOption

namespace HelpPage

/-- The options in the order of the page. -/
def options : List CommandOption :=
  [.field .target, .field .configmap, .field .podNamespace, .field .pollPeriodSeconds,
    .field .printVersion, .field .defaultParams, .field .nodeLabels, .field .maxSyncFailures,
    .configFile, .logLevel, .logFile, .help]

/-- Every option is on the page, and none is on it twice. -/
theorem options_perm : options.Perm CommandOption.all := by decide

/-- The help page of the program. -/
def page : HelpPage where
  summary := "Validate startup parameters and hand them to the control loop."
  entries := options.map CommandOption.helpEntry

/-- A page with a line for its summary and for each of its entries. -/
def lines (p : HelpPage) : Text :=
  let entries := p.entries.map fun e =>
    ("  " : Text) ++ Text.join ", " e.names ++
      ((e.valueName?.map fun name => (" " : Text) ++ name).getD []) ++ ("  " : Text) ++ e.purpose ++
      ((e.default?.map fun value => (" [default: " : Text) ++ value ++ ("]" : Text)).getD [])
  (p.summary :: entries).flatMap fun line => line ++ ("\n" : Text)

end HelpPage

end Autoscaler
