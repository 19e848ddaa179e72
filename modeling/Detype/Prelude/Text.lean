/-
**The text of the functions that compiled code calls.**

Each is a list of lines, as the printer would lay them out.
-/

namespace Detype.Prelude

/-- Defines a getter for each property of an object. -/
def gettersLines : List String :=
  ["function _export(target, all) \x7b",
   "    for(var name in all)Object.defineProperty(target, name, \x7b",
   "        enumerable: true,",
   "        get: Object.getOwnPropertyDescriptor(all, name).get",
   "    \x7d);",
   "\x7d"]

/-- Exports again what another module exports, its default apart. -/
def exportStarLines : List String :=
  ["function _export_star(from, to) \x7b",
   "    Object.keys(from).forEach(function(k) \x7b",
   "        if (k !== \"default\" && !Object.prototype.hasOwnProperty.call(to, k)) \x7b",
   "            Object.defineProperty(to, k, \x7b",
   "                enumerable: true,",
   "                get: function() \x7b",
   "                    return from[k];",
   "                \x7d",
   "            \x7d);",
   "        \x7d",
   "    \x7d);",
   "    return from;",
   "\x7d"]

/-- The default export of a module that may not be compiled. -/
def requireDefaultLines : List String :=
  ["function _interop_require_default(obj) \x7b",
   "    return obj && obj.__esModule ? obj : \x7b",
   "        default: obj",
   "    \x7d;",
   "\x7d"]

/-- All exports of a module that may not be compiled. -/
def requireWildcardLines : List String :=
  ["function _getRequireWildcardCache(nodeInterop) \x7b",
   "    if (typeof WeakMap !== \"function\") return null;",
   "    var cacheBabelInterop = new WeakMap();",
   "    var cacheNodeInterop = new WeakMap();",
   "    return (_getRequireWildcardCache = function(nodeInterop) \x7b",
   "        return nodeInterop ? cacheNodeInterop : cacheBabelInterop;",
   "    \x7d)(nodeInterop);",
   "\x7d",
   "function _interop_require_wildcard(obj, nodeInterop) \x7b",
   "    if (!nodeInterop && obj && obj.__esModule) \x7b",
   "        return obj;",
   "    \x7d",
   "    if (obj === null || typeof obj !== \"object\" && typeof obj !== \"function\") \x7b",
   "        return \x7b",
   "            default: obj",
   "        \x7d;",
   "    \x7d",
   "    var cache = _getRequireWildcardCache(nodeInterop);",
   "    if (cache && cache.has(obj)) \x7b",
   "        return cache.get(obj);",
   "    \x7d",
   "    var newObj = \x7b",
   "        __proto__: null",
   "    \x7d;",
   "    var hasPropertyDescriptor = Object.defineProperty && Object.getOwnPropertyDescriptor;",
   "    for(var key in obj)\x7b",
   "        if (key !== \"default\" && Object.prototype.hasOwnProperty.call(obj, key)) \x7b",
   "            var desc = hasPropertyDescriptor ? Object.getOwnPropertyDescriptor(obj, key) : null;",
   "            if (desc && (desc.get || desc.set)) \x7b",
   "                Object.defineProperty(newObj, key, desc);",
   "            \x7d else \x7b",
   "                newObj[key] = obj[key];",
   "            \x7d",
   "        \x7d",
   "    \x7d",
   "    newObj.default = obj;",
   "    if (cache) \x7b",
   "        cache.set(obj, newObj);",
   "    \x7d",
   "    return newObj;",
   "\x7d"]

/-- Applies decorators of the older semantics. -/
def decorateLines : List String :=
  ["function _ts_decorate(decorators, target, key, desc) \x7b",
   "    var c = arguments.length, r = c < 3 ? target : desc === null ? desc = Object.getOwnPropertyDescriptor(target, key) : desc, d;",
   "    if (typeof Reflect === \"object\" && typeof Reflect.decorate === \"function\") r = Reflect.decorate(decorators, target, key, desc);",
   "    else for(var i = decorators.length - 1; i >= 0; i--)if (d = decorators[i]) r = (c < 3 ? d(r) : c > 3 ? d(target, key, r) : d(target, key)) || r;",
   "    return c > 3 && r && Object.defineProperty(target, key, r), r;",
   "\x7d"]

/-- A decorator of a parameter as one of its function. -/
def decorateParamLines : List String :=
  ["function _ts_param(paramIndex, decorator) \x7b",
   "    return function(target, key) \x7b",
   "        decorator(target, key, paramIndex);",
   "    \x7d;",
   "\x7d"]

/-- Applies decorators of the standard semantics. -/
def applyDecoratorsLines : List String :=
  ["function applyDecs2203RFactory() \x7b",
   "    function createAddInitializerMethod(initializers, decoratorFinishedRef) \x7b",
   "        return function addInitializer(initializer) \x7b",
   "            assertNotFinished(decoratorFinishedRef, \"addInitializer\");",
   "            assertCallable(initializer, \"An initializer\");",
   "            initializers.push(initializer);",
   "        \x7d;",
   "    \x7d",
   "    function memberDec(dec, name, desc, initializers, kind, isStatic, isPrivate, metadata, value) \x7b",
   "        var kindStr;",
   "        switch(kind)\x7b",
   "            case 1:",
   "                kindStr = \"accessor\";",
   "                break;",
   "            case 2:",
   "                kindStr = \"method\";",
   "                break;",
   "            case 3:",
   "                kindStr = \"getter\";",
   "                break;",
   "            case 4:",
   "                kindStr = \"setter\";",
   "                break;",
   "            default:",
   "                kindStr = \"field\";",
   "        \x7d",
   "        var ctx = \x7b",
   "            kind: kindStr,",
   "            name: isPrivate ? \"#\" + name : name,",
   "            static: isStatic,",
   "            private: isPrivate,",
   "            metadata: metadata",
   "        \x7d;",
   "        var decoratorFinishedRef = \x7b",
   "            v: false",
   "        \x7d;",
   "        ctx.addInitializer = createAddInitializerMethod(initializers, decoratorFinishedRef);",
   "        var get, set;",
   "        if (kind === 0) \x7b",
   "            if (isPrivate) \x7b",
   "                get = desc.get;",
   "                set = desc.set;",
   "            \x7d else \x7b",
   "                get = function() \x7b",
   "                    return this[name];",
   "                \x7d;",
   "                set = function(v) \x7b",
   "                    this[name] = v;",
   "                \x7d;",
   "            \x7d",
   "        \x7d else if (kind === 2) \x7b",
   "            get = function() \x7b",
   "                return desc.value;",
   "            \x7d;",
   "        \x7d else \x7b",
   "            if (kind === 1 || kind === 3) \x7b",
   "                get = function() \x7b",
   "                    return desc.get.call(this);",
   "                \x7d;",
   "            \x7d",
   "            if (kind === 1 || kind === 4) \x7b",
   "                set = function(v) \x7b",
   "                    desc.set.call(this, v);",
   "                \x7d;",
   "            \x7d",
   "        \x7d",
   "        ctx.access = get && set ? \x7b",
   "            get: get,",
   "            set: set",
   "        \x7d : get ? \x7b",
   "            get: get",
   "        \x7d : \x7b",
   "            set: set",
   "        \x7d;",
   "        try \x7b",
   "            return dec(value, ctx);",
   "        \x7d finally\x7b",
   "            decoratorFinishedRef.v = true;",
   "        \x7d",
   "    \x7d",
   "    function assertNotFinished(decoratorFinishedRef, fnName) \x7b",
   "        if (decoratorFinishedRef.v) \x7b",
   "            throw new Error(\"attempted to call \" + fnName + \" after decoration was finished\");",
   "        \x7d",
   "    \x7d",
   "    function assertCallable(fn, hint) \x7b",
   "        if (typeof fn !== \"function\") \x7b",
   "            throw new TypeError(hint + \" must be a function\");",
   "        \x7d",
   "    \x7d",
   "    function assertValidReturnValue(kind, value) \x7b",
   "        var type = typeof value;",
   "        if (kind === 1) \x7b",
   "            if (type !== \"object\" || value === null) \x7b",
   "                throw new TypeError(\"accessor decorators must return an object with get, set, or init properties or void 0\");",
   "            \x7d",
   "            if (value.get !== undefined) \x7b",
   "                assertCallable(value.get, \"accessor.get\");",
   "            \x7d",
   "            if (value.set !== undefined) \x7b",
   "                assertCallable(value.set, \"accessor.set\");",
   "            \x7d",
   "            if (value.init !== undefined) \x7b",
   "                assertCallable(value.init, \"accessor.init\");",
   "            \x7d",
   "        \x7d else if (type !== \"function\") \x7b",
   "            var hint;",
   "            if (kind === 0) \x7b",
   "                hint = \"field\";",
   "            \x7d else if (kind === 10) \x7b",
   "                hint = \"class\";",
   "            \x7d else \x7b",
   "                hint = \"method\";",
   "            \x7d",
   "            throw new TypeError(hint + \" decorators must return a function or void 0\");",
   "        \x7d",
   "    \x7d",
   "    function applyMemberDec(ret, base, decInfo, name, kind, isStatic, isPrivate, initializers, metadata) \x7b",
   "        var decs = decInfo[0];",
   "        var desc, init, value;",
   "        if (isPrivate) \x7b",
   "            if (kind === 0 || kind === 1) \x7b",
   "                desc = \x7b",
   "                    get: decInfo[3],",
   "                    set: decInfo[4]",
   "                \x7d;",
   "            \x7d else if (kind === 3) \x7b",
   "                desc = \x7b",
   "                    get: decInfo[3]",
   "                \x7d;",
   "            \x7d else if (kind === 4) \x7b",
   "                desc = \x7b",
   "                    set: decInfo[3]",
   "                \x7d;",
   "            \x7d else \x7b",
   "                desc = \x7b",
   "                    value: decInfo[3]",
   "                \x7d;",
   "            \x7d",
   "        \x7d else if (kind !== 0) \x7b",
   "            desc = Object.getOwnPropertyDescriptor(base, name);",
   "        \x7d",
   "        if (kind === 1) \x7b",
   "            value = \x7b",
   "                get: desc.get,",
   "                set: desc.set",
   "            \x7d;",
   "        \x7d else if (kind === 2) \x7b",
   "            value = desc.value;",
   "        \x7d else if (kind === 3) \x7b",
   "            value = desc.get;",
   "        \x7d else if (kind === 4) \x7b",
   "            value = desc.set;",
   "        \x7d",
   "        var newValue, get, set;",
   "        if (typeof decs === \"function\") \x7b",
   "            newValue = memberDec(decs, name, desc, initializers, kind, isStatic, isPrivate, metadata, value);",
   "            if (newValue !== void 0) \x7b",
   "                assertValidReturnValue(kind, newValue);",
   "                if (kind === 0) \x7b",
   "                    init = newValue;",
   "                \x7d else if (kind === 1) \x7b",
   "                    init = newValue.init;",
   "                    get = newValue.get || value.get;",
   "                    set = newValue.set || value.set;",
   "                    value = \x7b",
   "                        get: get,",
   "                        set: set",
   "                    \x7d;",
   "                \x7d else \x7b",
   "                    value = newValue;",
   "                \x7d",
   "            \x7d",
   "        \x7d else \x7b",
   "            for(var i = decs.length - 1; i >= 0; i--)\x7b",
   "                var dec = decs[i];",
   "                newValue = memberDec(dec, name, desc, initializers, kind, isStatic, isPrivate, metadata, value);",
   "                if (newValue !== void 0) \x7b",
   "                    assertValidReturnValue(kind, newValue);",
   "                    var newInit;",
   "                    if (kind === 0) \x7b",
   "                        newInit = newValue;",
   "                    \x7d else if (kind === 1) \x7b",
   "                        newInit = newValue.init;",
   "                        get = newValue.get || value.get;",
   "                        set = newValue.set || value.set;",
   "                        value = \x7b",
   "                            get: get,",
   "                            set: set",
   "                        \x7d;",
   "                    \x7d else \x7b",
   "                        value = newValue;",
   "                    \x7d",
   "                    if (newInit !== void 0) \x7b",
   "                        if (init === void 0) \x7b",
   "                            init = newInit;",
   "                        \x7d else if (typeof init === \"function\") \x7b",
   "                            init = [",
   "                                init,",
   "                                newInit",
   "                            ];",
   "                        \x7d else \x7b",
   "                            init.push(newInit);",
   "                        \x7d",
   "                    \x7d",
   "                \x7d",
   "            \x7d",
   "        \x7d",
   "        if (kind === 0 || kind === 1) \x7b",
   "            if (init === void 0) \x7b",
   "                init = function(instance, init) \x7b",
   "                    return init;",
   "                \x7d;",
   "            \x7d else if (typeof init !== \"function\") \x7b",
   "                var ownInitializers = init;",
   "                init = function(instance, init) \x7b",
   "                    var value = init;",
   "                    for(var i = 0; i < ownInitializers.length; i++)\x7b",
   "                        value = ownInitializers[i].call(instance, value);",
   "                    \x7d",
   "                    return value;",
   "                \x7d;",
   "            \x7d else \x7b",
   "                var originalInitializer = init;",
   "                init = function(instance, init) \x7b",
   "                    return originalInitializer.call(instance, init);",
   "                \x7d;",
   "            \x7d",
   "            ret.push(init);",
   "        \x7d",
   "        if (kind !== 0) \x7b",
   "            if (kind === 1) \x7b",
   "                desc.get = value.get;",
   "                desc.set = value.set;",
   "            \x7d else if (kind === 2) \x7b",
   "                desc.value = value;",
   "            \x7d else if (kind === 3) \x7b",
   "                desc.get = value;",
   "            \x7d else if (kind === 4) \x7b",
   "                desc.set = value;",
   "            \x7d",
   "            if (isPrivate) \x7b",
   "                if (kind === 1) \x7b",
   "                    ret.push(function(instance, args) \x7b",
   "                        return value.get.call(instance, args);",
   "                    \x7d);",
   "                    ret.push(function(instance, args) \x7b",
   "                        return value.set.call(instance, args);",
   "                    \x7d);",
   "                \x7d else if (kind === 2) \x7b",
   "                    ret.push(value);",
   "                \x7d else \x7b",
   "                    ret.push(function(instance, args) \x7b",
   "                        return value.call(instance, args);",
   "                    \x7d);",
   "                \x7d",
   "            \x7d else \x7b",
   "                Object.defineProperty(base, name, desc);",
   "            \x7d",
   "        \x7d",
   "    \x7d",
   "    function applyMemberDecs(Class, decInfos, metadata) \x7b",
   "        var ret = [];",
   "        var protoInitializers;",
   "        var staticInitializers;",
   "        var existingProtoNonFields = new Map();",
   "        var existingStaticNonFields = new Map();",
   "        for(var i = 0; i < decInfos.length; i++)\x7b",
   "            var decInfo = decInfos[i];",
   "            if (!Array.isArray(decInfo)) continue;",
   "            var kind = decInfo[1];",
   "            var name = decInfo[2];",
   "            var isPrivate = decInfo.length > 3;",
   "            var isStatic = kind >= 5;",
   "            var base;",
   "            var initializers;",
   "            if (isStatic) \x7b",
   "                base = Class;",
   "                kind = kind - 5;",
   "                staticInitializers = staticInitializers || [];",
   "                initializers = staticInitializers;",
   "            \x7d else \x7b",
   "                base = Class.prototype;",
   "                protoInitializers = protoInitializers || [];",
   "                initializers = protoInitializers;",
   "            \x7d",
   "            if (kind !== 0 && !isPrivate) \x7b",
   "                var existingNonFields = isStatic ? existingStaticNonFields : existingProtoNonFields;",
   "                var existingKind = existingNonFields.get(name) || 0;",
   "                if (existingKind === true || existingKind === 3 && kind !== 4 || existingKind === 4 && kind !== 3) \x7b",
   "                    throw new Error(\"Attempted to decorate a public method/accessor that has the same name as a previously decorated public method/accessor. This is not currently supported by the decorators plugin. Property name was: \" + name);",
   "                \x7d else if (!existingKind && kind > 2) \x7b",
   "                    existingNonFields.set(name, kind);",
   "                \x7d else \x7b",
   "                    existingNonFields.set(name, true);",
   "                \x7d",
   "            \x7d",
   "            applyMemberDec(ret, base, decInfo, name, kind, isStatic, isPrivate, initializers, metadata);",
   "        \x7d",
   "        pushInitializers(ret, protoInitializers);",
   "        pushInitializers(ret, staticInitializers);",
   "        return ret;",
   "    \x7d",
   "    function pushInitializers(ret, initializers) \x7b",
   "        if (initializers) \x7b",
   "            ret.push(function(instance) \x7b",
   "                for(var i = 0; i < initializers.length; i++)\x7b",
   "                    initializers[i].call(instance);",
   "                \x7d",
   "                return instance;",
   "            \x7d);",
   "        \x7d",
   "    \x7d",
   "    function applyClassDecs(targetClass, classDecs, metadata) \x7b",
   "        if (classDecs.length > 0) \x7b",
   "            var initializers = [];",
   "            var newClass = targetClass;",
   "            var name = targetClass.name;",
   "            for(var i = classDecs.length - 1; i >= 0; i--)\x7b",
   "                var decoratorFinishedRef = \x7b",
   "                    v: false",
   "                \x7d;",
   "                try \x7b",
   "                    var nextNewClass = classDecs[i](newClass, \x7b",
   "                        kind: \"class\",",
   "                        name: name,",
   "                        addInitializer: createAddInitializerMethod(initializers, decoratorFinishedRef),",
   "                        metadata",
   "                    \x7d);",
   "                \x7d finally\x7b",
   "                    decoratorFinishedRef.v = true;",
   "                \x7d",
   "                if (nextNewClass !== undefined) \x7b",
   "                    assertValidReturnValue(10, nextNewClass);",
   "                    newClass = nextNewClass;",
   "                \x7d",
   "            \x7d",
   "            return [",
   "                defineMetadata(newClass, metadata),",
   "                function() \x7b",
   "                    for(var i = 0; i < initializers.length; i++)\x7b",
   "                        initializers[i].call(newClass);",
   "                    \x7d",
   "                \x7d",
   "            ];",
   "        \x7d",
   "    \x7d",
   "    function defineMetadata(Class, metadata) \x7b",
   "        return Object.defineProperty(Class, Symbol.metadata || Symbol.for(\"Symbol.metadata\"), \x7b",
   "            configurable: true,",
   "            enumerable: true,",
   "            value: metadata",
   "        \x7d);",
   "    \x7d",
   "    return function applyDecs2203R(targetClass, memberDecs, classDecs, parentClass) \x7b",
   "        if (parentClass !== void 0) \x7b",
   "            var parentMetadata = parentClass[Symbol.metadata || Symbol.for(\"Symbol.metadata\")];",
   "        \x7d",
   "        var metadata = Object.create(parentMetadata === void 0 ? null : parentMetadata);",
   "        var e = applyMemberDecs(targetClass, memberDecs, metadata);",
   "        if (!classDecs.length) defineMetadata(targetClass, metadata);",
   "        return \x7b",
   "            e: e,",
   "            get c () \x7b",
   "                return applyClassDecs(targetClass, classDecs, metadata);",
   "            \x7d",
   "        \x7d;",
   "    \x7d;",
   "\x7d",
   "function _apply_decs_2203_r(targetClass, memberDecs, classDecs, parentClass) \x7b",
   "    return (_apply_decs_2203_r = applyDecs2203RFactory())(targetClass, memberDecs, classDecs, parentClass);",
   "\x7d"]

/-- Its argument. -/
def identityLines : List String :=
  ["function _identity(x) \x7b",
   "    return x;",
   "\x7d"]

end Detype.Prelude
