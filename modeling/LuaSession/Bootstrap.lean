import LuaSession.Text.Utf8

/-!
# Redirecting output

A new session runs a script first that makes the output functions write to the
adapter, which scripts find under a reserved name.
-/

namespace LuaSession.Bootstrap

/-- The name under which scripts find the adapter. -/
def outputBinding : String := "__stdout"

/-- The name that messages about the first script show. -/
def chunkName : String := "bootstrap"

/-- The first script. It keeps the functions that it needs, so that nothing that
is bound later changes what `print` does. -/
def text : String := "
local out = __stdout
local select, tostring, concat, error = select, tostring, table.concat, error

_G.print = function(...)
    local parts = \x7b\x7d
    for i = 1, select(\"#\", ...) do
        parts[i] = tostring((select(i, ...)))
    end
    out:write(concat(parts, \"\\t\"), \"\\n\")
end

if io then
    local set_output = io.output
    local current = out

    io.output = function(file)
        if file == nil then
            return current
        end
        if file == out then
            current = out
        else
            current = set_output(file)
        end
        return current
    end
    io.write = function(...)
        return current:write(...)
    end
    io.stdout = out
end

if os then
    os.exit = function()
        error(\"os.exit is not available in a script session\", 2)
    end
end
"

end LuaSession.Bootstrap
