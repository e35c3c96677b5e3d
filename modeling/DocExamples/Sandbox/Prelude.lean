/-!
The script that a sandbox runs before anything else. It defines what snippets call: `require`, the
console, and the helpers that assertions use. Each of them exchanges JSON text with the host.
-/

namespace DocExamples.Prelude

/-- The lines of the script. -/
def lines : List String := [
  "// Installed once per sandbox before any snippet runs. Relies on the __host* functions",
  "// registered by the evaluator; every exchange with the host is JSON text.",
  "(function (global) \x7b",
  "  \"use strict\";",
  "",
  "  var hasOwn = Object.prototype.hasOwnProperty;",
  "",
  "  function AssertionError(message) \x7b",
  "    var error = new Error(message);",
  "    error.name = \"AssertionError\";",
  "    return error;",
  "  \x7d",
  "",
  "  function toHost(value) \x7b",
  "    var kind = typeof value;",
  "    if (value === undefined || kind === \"function\" || kind === \"symbol\" || kind === \"bigint\") \x7b",
  "      return String(value);",
  "    \x7d",
  "    if (kind === \"number\" && !isFinite(value)) \x7b",
  "      return String(value);",
  "    \x7d",
  "    return value;",
  "  \x7d",
  "",
  "  function serialize(values) \x7b",
  "    var converted = values.map(toHost);",
  "    try \x7b",
  "      return JSON.stringify(converted);",
  "    \x7d catch (err) \x7b",
  "      return JSON.stringify(converted.map(function (value) \x7b return String(value); \x7d));",
  "    \x7d",
  "  \x7d",
  "",
  "  function describe(value) \x7b",
  "    if (typeof value === \"string\") \x7b",
  "      return JSON.stringify(value);",
  "    \x7d",
  "    if (value === undefined || typeof value === \"function\" || typeof value === \"symbol\") \x7b",
  "      return String(value);",
  "    \x7d",
  "    try \x7b",
  "      var text = JSON.stringify(value);",
  "      return text === undefined ? String(value) : text;",
  "    \x7d catch (err) \x7b",
  "      return String(value);",
  "    \x7d",
  "  \x7d",
  "",
  "  function isDeepStrictEqual(actual, expected) \x7b",
  "    if (Object.is(actual, expected)) \x7b",
  "      return true;",
  "    \x7d",
  "    if (typeof actual !== \"object\" || typeof expected !== \"object\" ||",
  "        actual === null || expected === null) \x7b",
  "      return false;",
  "    \x7d",
  "    if (Object.getPrototypeOf(actual) !== Object.getPrototypeOf(expected)) \x7b",
  "      return false;",
  "    \x7d",
  "    if (actual instanceof Date) \x7b",
  "      return actual.getTime() === expected.getTime();",
  "    \x7d",
  "    if (actual instanceof RegExp) \x7b",
  "      return String(actual) === String(expected);",
  "    \x7d",
  "    if (actual instanceof Set) \x7b",
  "      if (actual.size !== expected.size) \x7b",
  "        return false;",
  "      \x7d",
  "      return Array.from(actual).every(function (item) \x7b return expected.has(item); \x7d);",
  "    \x7d",
  "    if (actual instanceof Map) \x7b",
  "      if (actual.size !== expected.size) \x7b",
  "        return false;",
  "      \x7d",
  "      return Array.from(actual.keys()).every(function (key) \x7b",
  "        return expected.has(key) && isDeepStrictEqual(actual.get(key), expected.get(key));",
  "      \x7d);",
  "    \x7d",
  "    var actualKeys = Object.keys(actual);",
  "    var expectedKeys = Object.keys(expected);",
  "    if (actualKeys.length !== expectedKeys.length) \x7b",
  "      return false;",
  "    \x7d",
  "    return actualKeys.every(function (key) \x7b",
  "      return hasOwn.call(expected, key) && isDeepStrictEqual(actual[key], expected[key]);",
  "    \x7d);",
  "  \x7d",
  "",
  "  var modules = \x7b\x7d;",
  "",
  "  global.require = function require(name) \x7b",
  "    name = String(name);",
  "    if (hasOwn.call(modules, name)) \x7b",
  "      return modules[name];",
  "    \x7d",
  "    var reply = JSON.parse(global.__hostRequire(name));",
  "    if (!reply.ok) \x7b",
  "      var error = new Error(reply.message);",
  "      error.code = \"MODULE_NOT_FOUND\";",
  "      throw error;",
  "    \x7d",
  "    modules[name] = (0, eval)(\"(\" + reply.source + \")\");",
  "    return modules[name];",
  "  \x7d;",
  "",
  "  function log() \x7b",
  "    global.__hostLog(serialize(Array.prototype.slice.call(arguments)));",
  "  \x7d",
  "",
  "  global.console = \x7blog: log, info: log, debug: log\x7d;",
  "",
  "  global.__nextOutput = function () \x7b",
  "    return JSON.parse(global.__hostNextOutput());",
  "  \x7d;",
  "",
  "  global.__formatOutput = function (values) \x7b",
  "    return JSON.parse(global.__hostFormatOutput(serialize(values)));",
  "  \x7d;",
  "",
  "  global.__assertOutputDrained = function () \x7b",
  "    var pending = JSON.parse(global.__hostPendingOutput());",
  "    if (pending.length > 0) \x7b",
  "      throw AssertionError(",
  "        \"Unexpected console output left unchecked:\\n\" + pending.join(\"\\n\")",
  "      );",
  "    \x7d",
  "  \x7d;",
  "",
  "  global.__deepStrictEqual = function (actual, expected) \x7b",
  "    if (!isDeepStrictEqual(actual, expected)) \x7b",
  "      throw AssertionError(",
  "        \"Expected values to be strictly deep-equal:\\n\" +",
  "        describe(actual) + \" !== \" + describe(expected)",
  "      );",
  "    \x7d",
  "  \x7d;",
  "\x7d)(globalThis);"]

/-- The script. -/
def source : String := String.ofList (lines.flatMap fun line => line.toList ++ ['\n'])

end DocExamples.Prelude
