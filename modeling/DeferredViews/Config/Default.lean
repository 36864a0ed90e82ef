/-!
# The default configuration

The text that a new configuration file starts with. It says what every setting is when it is left
out, and shows in comments the settings that have no default.
-/
namespace DeferredViews.Config

def defaultLines : List String := [
  "# jinjaview configuration",
  "",
  "# View roots, searched in order for templates and layouts",
  "views:",
  "  - \"views\"",
  "",
  "view_options:",
  "  # Default layout name, or false to disable layouts. When unset, \"layout\"",
  "  # is used if it exists and skipped quietly otherwise.",
  "  # layout: \"base\"",
  "",
  "# Cache compiled templates for the life of the process",
  "cache: false",
  "",
  "partials:",
  "  # Directory registered as partials before each CLI render",
  "  # directory: \"views/partials\"",
  "  extensions: [\"html\", \"hbs\"]",
  "",
  "render:",
  "  autoescape: true",
  "  async_timeout: null   # seconds; null waits for async helpers indefinitely"]

def defaultText : String := String.join (defaultLines.map (· ++ "\n"))

end DeferredViews.Config
